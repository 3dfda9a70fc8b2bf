import Mathlib.Data.List.Forall2
import TrackerFilter.Proofs.Wire.Extension

/-!
What a documented library makes of a member that belongs to no field. A reader that ignores it gives what
it gave before, whatever that is; one that refuses it gives it for its only fault, if there was none. Both
go from the fields of a record to the record, and from the items of a list to the list.
-/
namespace TrackerFilter

namespace Wire

/-- The same fault, but a missing field may be missing in another object. -/
structure Fault.Alike (f g : Fault) : Prop where
  cause : f.cause = g.cause
  path : f.path = g.path
  input : f.cause ≠ .missing → f.input = g.input

theorem Fault.Alike.refl (f : Fault) : f.Alike f := ⟨rfl, rfl, fun _ => rfl⟩

theorem Fault.Alike.below {f g : Fault} (h : f.Alike g) (step : Step) :
    (f.below step).Alike (g.below step) :=
  ⟨h.cause, congrArg (List.cons step) h.path, h.input⟩

namespace Checked

variable {α β : Type}

inductive Alike : Checked α → Checked α → Prop where
  | sound (a : α) : Alike (.sound a) (.sound a)
  | faulty {fs gs : List Fault} (h : List.Forall₂ Fault.Alike fs gs) : Alike (.faulty fs) (.faulty gs)

namespace Alike

variable {c c' : Checked α}

theorem refl (c : Checked α) : c.Alike c := by
  cases c with
  | sound a => exact .sound a
  | faulty fs => exact .faulty (List.forall₂_same.mpr fun f _ => .refl f)

theorem faults (h : c.Alike c') : List.Forall₂ Fault.Alike c.faults c'.faults := by
  cases h with
  | sound a => exact .nil
  | faulty h => exact h

theorem map (h : c.Alike c') (g : α → β) : (c.map g).Alike (c'.map g) := by
  cases h with
  | sound a => exact .sound (g a)
  | faulty h => exact .faulty h

theorem below (h : c.Alike c') (step : Step) : (c.below step).Alike (c'.below step) := by
  cases h with
  | sound a => exact .sound a
  | faulty h =>
    refine .faulty (List.forall₂_map_left_iff.mpr (List.forall₂_map_right_iff.mpr ?_))
    exact h.imp fun _ _ hf => hf.below step

theorem apply {g g' : Checked (α → β)} (hg : g.Alike g') (h : c.Alike c') :
    (g.apply c).Alike (g'.apply c') := by
  cases hg with
  | sound g =>
    cases h with
    | sound a => exact .sound (g a)
    | faulty h => exact .faulty h
  | faulty hg => exact .faulty (List.rel_append hg h.faults)

theorem cons {rest rest' : Checked (List α)} (h : c.Alike c') (hrest : rest.Alike rest') :
    (c.cons rest).Alike (c'.cons rest') :=
  (h.map List.cons).apply hrest

end Alike

def withFaults (a : α) : List Fault → Checked α
  | [] => .sound a
  | fs => .faulty fs

theorem apply_withFaults (g : α → β) (a : α) (fs gs : List Fault) :
    (withFaults g fs).apply (withFaults a gs) = withFaults (g a) (fs ++ gs) := by
  cases fs <;> cases gs <;> simp [withFaults, Checked.apply, Checked.faults]

end Checked

section
variable {α : Type} {d : Decoder α} {s : Shape}

def Decoder.Ignores (d : Decoder α) (s : Shape) : Prop :=
  ∀ path u v w, Extended s path u v w → (d v).Alike (d w)

def Decoder.Refuses (d : Decoder α) (s : Shape) : Prop :=
  ∀ path u v w a, d v = .sound a → Extended s path u v w → d w = .faulty [⟨.unknownKey, path, u⟩]

theorem Decoder.ignores_value (d : Decoder α) : d.Ignores .value :=
  fun _ _ _ _ h => nomatch h

theorem items_ignores (h : d.Ignores s) {path : List Step} {u v w : Json} (hx : Extended s path u v w)
    (before after : List Json) (i : Nat) :
    (items d i (before ++ v :: after)).Alike (items d i (before ++ w :: after)) := by
  induction before generalizing i with
  | nil => exact ((h path u v w hx).below _).cons (.refl _)
  | cons x rest ih => exact .cons (.refl _) (ih (i + 1))

theorem entries_ignores (h : d.Ignores s) {path : List Step} {u v w : Json} (hx : Extended s path u v w)
    (before after : Members) (key : String) :
    (entries d (before ++ (key, v) :: after)).Alike (entries d (before ++ (key, w) :: after)) := by
  induction before with
  | nil => exact (((h path u v w hx).below _).map _).cons (.refl _)
  | cons m rest ih => exact .cons (.refl _) ih

end

namespace Fields

section
variable {α β : Type} {f : Fields (β → α)} {fields : Fields α} {d : Decoder β} {slot : Slot} {b : β}
  {absent : Option β} {part : Slot → Shape} {s : Shape} {ms ns : Members} {fs : List Fault}

/-- The values of fields may change by one more member, and nothing else does. -/
def Ignores (fields : Fields α) (part : Slot → Shape) : Prop :=
  ∀ ms ns, (∀ slot ∈ fields.slots, ∃ fs, slot.Change (part slot) ms ns fs) →
    (fields.read ms).Alike (fields.read ns)

/-- The faults of changed fields are those that there are, if there were none. -/
def Refuses (fields : Fields α) (part : Slot → Shape) : Prop :=
  ∀ ms ns (blame : Slot → List Fault) a,
    (∀ slot ∈ fields.slots, slot.Change (part slot) ms ns (blame slot)) → fields.read ms = .sound a →
      fields.read ns = .withFaults a (fields.slots.flatMap blame)

theorem slot_ignores (h : d.Ignores s) (hc : slot.Change s ms ns fs) :
    (slot.read d absent ms).Alike (slot.read d absent ns) := by
  cases hc with
  | extended hm hn hx =>
    simp only [Slot.read, hm, hn]
    exact (h _ _ _ _ hx).below _
  | same hf =>
    cases hm : slot.find? ms with
    | some m =>
      simp only [Slot.read, ← hf, hm]
      exact .refl _
    | none =>
      cases absent with
      | some a =>
        simp only [Slot.read, ← hf, hm]
        exact .sound a
      | none =>
        -- the field is missing in both objects, and the objects differ
        simp only [Slot.read, ← hf, hm]
        exact .faulty (.cons ⟨rfl, rfl, fun hne => absurd rfl hne⟩ .nil)

theorem slot_refuses (h : d.Refuses s) (hc : slot.Change s ms ns fs)
    (hr : slot.read d absent ms = .sound b) : slot.read d absent ns = .withFaults b fs := by
  cases hc with
  | extended hm hn hx =>
    simp only [Slot.read, hm] at hr
    simp only [Slot.read, hn, h _ _ _ _ b (Checked.below_eq_sound.mp hr) hx]
    rfl
  | same hf =>
    cases hm : slot.find? ms with
    | some m =>
      simp only [Slot.read, hm] at hr
      simp only [Slot.read, ← hf, hm]
      exact hr
    | none =>
      cases absent with
      | some a =>
        simp only [Slot.read, hm] at hr
        simp only [Slot.read, ← hf, hm]
        exact hr
      | none => simp [Slot.read, hm] at hr

theorem Ignores.make {value : α} : (make value).Ignores part := fun _ _ _ => .sound value

theorem Refuses.make {value : α} : (make value).Refuses part := fun _ _ _ _ _ hr => hr

theorem Ignores.field (hf : f.Ignores part) (h : d.Ignores (part slot)) :
    (f.field slot d absent).Ignores part := by
  intro ms ns hc
  obtain ⟨hcf, hcs⟩ := List.forall_mem_append.mp hc
  obtain ⟨_, hslot⟩ := hcs slot List.mem_cons_self
  exact (hf ms ns hcf).apply (slot_ignores h hslot)

theorem Refuses.field (hf : f.Refuses part) (h : d.Refuses (part slot)) :
    (f.field slot d absent).Refuses part := by
  intro ms ns blame a hc hr
  obtain ⟨hcf, hcs⟩ := List.forall_mem_append.mp hc
  obtain ⟨g, b, hg, hb, rfl⟩ := Checked.apply_eq_sound.mp hr
  have happly := congrArg₂ Checked.apply (hf ms ns blame g hcf hg)
    (slot_refuses h (hcs slot List.mem_cons_self) hb)
  rw [Checked.apply_withFaults, ← List.flatMap_singleton blame slot, ← List.flatMap_append] at happly
  exact happly

end

section
variable {slots : List Slot} {ms ns rest : Members} {key : String} {v : Json}

end

end Fields

namespace Library.Documented

variable {L : Library} (hL : L.Documented) {α : Type} {d : Decoder α} {s : Shape} {fields : Fields α}
  {title : String} {part : Slot → Shape} {slots : List Slot}
include hL

theorem ignores_nullable (h : d.Ignores s) : (L.nullable d).Ignores s := by
  intro path u v w hx
  rw [hL.nullable_of_ne d v hx.ne_null.1, hL.nullable_of_ne d w hx.ne_null.2]
  exact (h path u v w hx).map some

theorem ignores_list (h : d.Ignores s) : (L.list d).Ignores (.list s) := by
  intro path u v w hx
  cases hx with
  | item hx =>
    rw [hL.list_arr, hL.list_arr]
    exact items_ignores h hx _ _ 0

theorem ignores_mapping (h : d.Ignores s) : (L.mapping d).Ignores (.map s) := by
  intro path u v w hx
  cases hx with
  | entry hx =>
    rw [hL.mapping_obj, hL.mapping_obj]
    exact entries_ignores h hx _ _ _

theorem ignores_record (hslots : fields.slots = slots) (hnames : (slots.flatMap Slot.names).Nodup)
    (h : fields.Ignores part) : (L.record fields title .ignored).Ignores (.record slots part) := by
  have hread : ∀ {ms ns}, (fields.read ms).Alike (fields.read ns) →
      (L.record fields title .ignored (.obj ms)).Alike (L.record fields title .ignored (.obj ns)) := by
    intro ms ns hr
    rw [hL.record_obj, hL.record_obj]
    simp only [Fields.check, unknownFaults]
    generalize fields.read ms = c at hr
    generalize fields.read ns = c' at hr
    cases hr with
    | sound a => exact .sound a
    | faulty hf => exact .faulty (List.rel_append hf .nil)
  intro path u v w hx
  cases hx with
  | here hkey =>
    refine hread (h _ _ fun slot hs => ⟨[], .same (Slot.find?_insert hkey ?_)⟩)
    exact hslots ▸ hs
  | member hslot hfind hx =>
    refine hread (h _ _ fun slot hs => ⟨_, Slot.change_put hnames hslot hfind hx ?_⟩)
    exact hslots ▸ hs

end Library.Documented

end Wire

end TrackerFilter
