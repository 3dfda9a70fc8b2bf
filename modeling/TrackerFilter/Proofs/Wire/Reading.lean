import TrackerFilter.Proofs.Wire.Documented

/-!
What a documented library gives for what was written, and what can be said of every value that it gives.
A list or a map is read as its items are, and a record field by field; a record whose object has the names
of its fields for keys, each once and in order, has nothing unknown in it.
-/
namespace TrackerFilter

theorem Members.lookup_eq_none {members : Members} {key : String} :
    members.lookup key = none ↔ key ∉ members.map Prod.fst := by
  constructor
  · intro h hk
    obtain ⟨m, hm, he⟩ := List.mem_map.mp hk
    have hne := List.lookup_eq_none_iff.mp h m hm
    simp [he] at hne
  · intro h
    refine List.lookup_eq_none_iff.mpr fun m hm => ?_
    simpa using fun he : key = m.1 => h (he ▸ List.mem_map_of_mem hm)

theorem Members.exists_lookup {members : Members} {key : String} (h : key ∈ members.map Prod.fst) :
    ∃ v, members.lookup key = some v :=
  Option.ne_none_iff_exists'.mp fun hn => lookup_eq_none.mp hn h

namespace Wire

namespace Checked

variable {α β : Type} {a : α} {b : β}

theorem apply_eq_sound {f : Checked (α → β)} {c : Checked α} :
    f.apply c = .sound b ↔ ∃ g a, f = .sound g ∧ c = .sound a ∧ g a = b := by
  cases f <;> cases c <;> simp [apply]

theorem below_eq_sound {step : Step} {c : Checked α} : c.below step = .sound a ↔ c = .sound a := by
  cases c <;> simp [below]

theorem cons_eq_sound {c : Checked α} {rest : Checked (List α)} {xs : List α} :
    c.cons rest = .sound xs ↔ ∃ x ys, c = .sound x ∧ rest = .sound ys ∧ x :: ys = xs := by
  cases c <;> cases rest <;> simp [cons, map, apply]

end Checked

section
variable {α : Type} {d : Decoder α} {encode : α → Json} {P : α → Prop}

theorem items_map {xs : List α} (h : ∀ a ∈ xs, d (encode a) = .sound a) (i : Nat) :
    items d i (xs.map encode) = .sound xs := by
  induction xs generalizing i with
  | nil => rfl
  | cons x rest ih =>
    have hrest := ih (fun a ha => h a (List.mem_cons_of_mem _ ha)) (i + 1)
    rw [List.map_cons, items, h x List.mem_cons_self, hrest]
    rfl

theorem entries_map {xs : List (String × α)} (h : ∀ x ∈ xs, d (encode x.2) = .sound x.2) :
    entries d (xs.map fun x => (x.1, encode x.2)) = .sound xs := by
  induction xs with
  | nil => rfl
  | cons x rest ih =>
    have hrest := ih fun a ha => h a (List.mem_cons_of_mem _ ha)
    rw [List.map_cons, entries, h x List.mem_cons_self, hrest]
    rfl

def Decoder.Ensures (d : Decoder α) (P : α → Prop) : Prop := ∀ v a, d v = .sound a → P a

theorem items_ensures (h : d.Ensures P) {vs : List Json} {i : Nat} {xs : List α}
    (hx : items d i vs = .sound xs) : ∀ a ∈ xs, P a := by
  induction vs generalizing i xs with
  | nil =>
    simp only [items, Checked.sound.injEq] at hx
    simp [← hx]
  | cons v rest ih =>
    obtain ⟨x, ys, hv, hr, rfl⟩ := Checked.cons_eq_sound.mp hx
    have hp := h v x (Checked.below_eq_sound.mp hv)
    exact List.forall_mem_cons.mpr ⟨hp, ih hr⟩

end

namespace Library.Documented

variable {L : Library} (hL : L.Documented)

section
variable {α : Type} {d : Decoder α} {encode : α → Json} {P : α → Prop}
include hL

theorem list_encodeList {xs : List α} (h : ∀ a ∈ xs, d (encode a) = .sound a) :
    L.list d (Model.encodeList encode xs) = .sound xs :=
  (hL.list_arr d _).trans (items_map h 0)

theorem mapping_map {xs : List (String × α)} (h : ∀ x ∈ xs, d (encode x.2) = .sound x.2) :
    L.mapping d (.obj (xs.map fun x => (x.1, encode x.2))) = .sound xs :=
  (hL.mapping_obj d _).trans (entries_map h)

/-- Null is never taken for a value, if no value is written as null. -/
theorem nullable_encodeOption {o : Option α} (hn : ∀ a, encode a ≠ .null)
    (h : ∀ a ∈ o, d (encode a) = .sound a) : L.nullable d (Model.encodeOption encode o) = .sound o := by
  cases o with
  | none => exact hL.nullable_null d
  | some a =>
    rw [Model.encodeOption, hL.nullable_of_ne d _ (hn a), h a rfl]
    rfl

theorem ensures_list (h : d.Ensures P) : (L.list d).Ensures fun xs => ∀ a ∈ xs, P a := by
  intro v xs hx
  obtain ⟨vs, rfl⟩ := hL.list_sound d v xs hx
  rw [hL.list_arr] at hx
  exact items_ensures h hx

theorem ensures_after {rule : α → Except String α} (h : ∀ a b, rule a = .ok b → P b) :
    (L.after rule d).Ensures P := by
  intro v b hb
  obtain ⟨a, _, hr⟩ := (hL.after_sound rule d v b).mp hb
  exact h a b hr

end

end Library.Documented

namespace Slot

variable {α : Type} {slot : Slot} {d : Decoder α} {members : Members} {v : Json} {a : α}
  {absent : Option α} {P : α → Prop}

theorem read_of_lookup (h : members.lookup slot.name = some v) (hd : d v = .sound a) :
    slot.read d absent members = .sound a := by
  simp [Slot.read, find?, h, hd, Checked.below]

theorem ensures_read (hr : slot.read d absent members = .sound a) (h : d.Ensures P)
    (habsent : ∀ a ∈ absent, P a) : P a := by
  cases hf : slot.find? members with
  | some m =>
    simp only [Slot.read, hf] at hr
    exact h _ a (Checked.below_eq_sound.mp hr)
  | none =>
    cases absent with
    | some b =>
      simp only [Slot.read, hf, Checked.sound.injEq] at hr
      exact hr ▸ habsent b rfl
    | none => simp [Slot.read, hf] at hr

end Slot

namespace Fields

section
variable {α β : Type} {f : Fields (β → α)} {slot : Slot} {d : Decoder β} {members : Members} {v : Json}
  {g : β → α} {a : α} {b absent : β}

theorem read_make : (make a).read members = .sound a := rfl

theorem read_required_eq_sound : (f.required slot d).read members = .sound a ↔
    ∃ g b, f.read members = .sound g ∧ slot.read d none members = .sound b ∧ g b = a :=
  Checked.apply_eq_sound

theorem read_optional_eq_sound : (f.optional slot d absent).read members = .sound a ↔
    ∃ g b, f.read members = .sound g ∧ slot.read d (some absent) members = .sound b ∧ g b = a :=
  Checked.apply_eq_sound

theorem read_required (hf : f.read members = .sound g) (h : members.lookup slot.name = some v)
    (hd : d v = .sound b) : (f.required slot d).read members = .sound (g b) :=
  read_required_eq_sound.mpr ⟨g, b, hf, Slot.read_of_lookup h hd, rfl⟩

theorem read_optional (hf : f.read members = .sound g) (h : members.lookup slot.name = some v)
    (hd : d v = .sound b) : (f.optional slot d absent).read members = .sound (g b) :=
  read_optional_eq_sound.mpr ⟨g, b, hf, Slot.read_of_lookup h hd, rfl⟩

end

section
variable {α : Type} {fields : Fields α} {title : String} {unknown : Unknown} {members : Members} {a : α}
  {P : α → Prop}

theorem strays_eq_nil_iff {slots : List Slot} : strays slots members = [] ↔
    ∀ key ∈ members.map Prod.fst, key ∈ slots.filterMap fun s => (s.find? members).map Prod.fst := by
  simp only [strays, List.filter_eq_nil_iff, Bool.not_eq_true', Bool.not_eq_false,
    List.contains_iff_mem, List.forall_mem_map]

theorem strays_eq_nil {slots : List Slot} (h : members.map Prod.fst = slots.map Slot.name) :
    strays slots members = [] := by
  refine strays_eq_nil_iff.mpr fun key hk => ?_
  obtain ⟨slot, hs, rfl⟩ := List.mem_map.mp (h ▸ hk)
  obtain ⟨v, hv⟩ := Members.exists_lookup hk
  refine List.mem_filterMap.mpr ⟨slot, hs, ?_⟩
  simp [Slot.find?, hv]

theorem check_eq_sound : fields.check unknown members = .sound a ↔
    fields.read members = .sound a ∧ unknownFaults unknown fields.slots members = [] := by
  rw [check]
  cases fields.read members <;> cases unknownFaults unknown fields.slots members <;> simp

end

end Fields

namespace Library.Documented

variable {L : Library} (hL : L.Documented) {α : Type} {fields : Fields α} {title : String}
  {unknown : Unknown} {members : Members} {a : α} {P : α → Prop}
include hL

theorem record_eq_sound : L.record fields title unknown (.obj members) = .sound a ↔
    fields.read members = .sound a ∧ unknownFaults unknown fields.slots members = [] := by
  rw [hL.record_obj, Fields.check_eq_sound]

theorem record_written (h : fields.read members = .sound a)
    (hk : members.map Prod.fst = fields.slots.map Slot.name) :
    L.record fields title unknown (.obj members) = .sound a := by
  refine hL.record_eq_sound.mpr ⟨h, ?_⟩
  cases unknown with
  | ignored => rfl
  | refused => rw [unknownFaults, Fields.strays_eq_nil hk, List.map_nil]

theorem ensures_record (h : ∀ members a, fields.read members = .sound a → P a) :
    (L.record fields title unknown).Ensures P := by
  intro v a hv
  obtain ⟨members, rfl⟩ := hL.record_sound fields title unknown v a hv
  exact h members a (hL.record_eq_sound.mp hv).1

end Library.Documented

theorem Model.validate_eq_ok {α : Type} {m : Model α} {v : Json} {a : α} :
    m.validate v = .ok a ↔ m.decode v = .sound a := by
  rw [validate]
  cases m.decode v <;> simp

end Wire

end TrackerFilter
