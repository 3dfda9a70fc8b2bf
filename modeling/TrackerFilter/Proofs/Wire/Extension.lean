import Mathlib.Data.List.Nodup
import Mathlib.Data.List.Pairwise
import TrackerFilter.Proofs.Wire.Reading

/-!
Received data with one more member in it, of a key that belongs to no field. Where such a member may be
put depends on how a value is read: only an object that is read field by field has unknown keys, and a
map has none.
-/
namespace TrackerFilter

namespace Members

variable {ms rest : Members} {key name : String} {v w : Json}

theorem lookup_cons_of_ne (h : key ≠ name) : List.lookup key ((name, v) :: ms) = ms.lookup key := by
  have hb : (key == name) = false := beq_eq_false_iff_ne.mpr h
  simp [List.lookup_cons, hb]

theorem lookup_put :
    (put name w ms).lookup key = if key = name then some w else ms.lookup key := by
  induction ms with
  | nil =>
    by_cases hk : key = name
    · simp [put, hk]
    · simp [put, hk, lookup_cons_of_ne]
  | cons m rest ih =>
    obtain ⟨k, v⟩ := m
    by_cases hm : k = name
    · by_cases hk : key = name
      · simp [put, hm, hk]
      · simp [put, hm, hk, lookup_cons_of_ne]
    · rw [put, if_neg hm]
      by_cases hk : key = k
      · simp [hk, hm]
      · rw [lookup_cons_of_ne hk, lookup_cons_of_ne hk, ih]

theorem lookup_insert (h : name ≠ key) :
    (ms ++ (key, v) :: rest).lookup name = (ms ++ rest).lookup name := by
  rw [List.lookup_append, List.lookup_append, lookup_cons_of_ne h]

end Members

namespace Wire

namespace Slot

variable {slot : Slot} {ms ns rest : Members} {key name : String} {v w : Json}

def names (slot : Slot) : List String := slot.name :: slot.second.toList

theorem find?_congr (h : ∀ name ∈ slot.names, ms.lookup name = ns.lookup name) :
    slot.find? ms = slot.find? ns := by
  obtain ⟨first, second⟩ := slot
  cases second with
  | none => simp [find?, h first (by simp [names])]
  | some second => simp [find?, h first (by simp [names]), h second (by simp [names])]

theorem find?_insert {slots : List Slot} (hkey : key ∉ slots.flatMap names) (hs : slot ∈ slots) :
    slot.find? (ms ++ rest) = slot.find? (ms ++ (key, v) :: rest) := by
  have h : key ∉ slot.names := fun hk => hkey (List.mem_flatMap.mpr ⟨slot, hs, hk⟩)
  exact find?_congr fun _ hn => (Members.lookup_insert (ne_of_mem_of_not_mem hn h)).symm

theorem find?_put_of_notMem (h : name ∉ slot.names) : slot.find? ms = slot.find? (ms.put name w) := by
  refine find?_congr fun n hn => ?_
  rw [Members.lookup_put, if_neg (ne_of_mem_of_not_mem hn h)]

theorem find?_eq_some : slot.find? ms = some (name, v) ↔
    (slot.name = name ∨ slot.second = some name ∧ ms.lookup slot.name = none) ∧
      ms.lookup name = some v := by
  obtain ⟨first, second⟩ := slot
  cases hf : ms.lookup first with
  | some u =>
    simp only [find?, hf, Option.some.injEq, Prod.mk.injEq, reduceCtorEq, and_false, or_false]
    constructor
    · rintro ⟨rfl, rfl⟩
      exact ⟨rfl, hf⟩
    · rintro ⟨rfl, hv⟩
      exact ⟨rfl, Option.some.inj (hf.symm.trans hv)⟩
  | none =>
    have hfirst : ¬ (first = name ∧ ms.lookup name = some v) := by
      rintro ⟨rfl, hv⟩
      simp [hv] at hf
    cases second with
    | none => simpa [find?, hf] using fun he hv => hfirst ⟨he, hv⟩
    | some second =>
      simp only [find?, hf, Option.map_eq_some_iff, Prod.mk.injEq, Option.some.injEq, and_true]
      constructor
      · rintro ⟨u, hu, rfl, rfl⟩
        exact ⟨.inr rfl, hu⟩
      · rintro ⟨rfl | rfl, hv⟩
        · exact absurd ⟨rfl, hv⟩ hfirst
        · exact ⟨v, hv, rfl, rfl⟩

theorem name_mem (h : slot.find? ms = some (name, v)) : name ∈ slot.names := by
  rcases (find?_eq_some.mp h).1 with rfl | ⟨hs, _⟩ <;> simp [names, *]

theorem find?_put (h : slot.find? ms = some (name, v)) :
    slot.find? (ms.put name w) = some (name, w) := by
  obtain ⟨hname, hv⟩ := find?_eq_some.mp h
  refine find?_eq_some.mpr ⟨hname.imp_right fun hsecond => ⟨hsecond.1, ?_⟩, ?_⟩
  · have hne : slot.name ≠ name := by
      intro he
      rw [← he, hsecond.2] at hv
      exact nomatch hv
    rw [Members.lookup_put, if_neg hne, hsecond.2]
  · rw [Members.lookup_put, if_pos rfl]

end Slot

inductive Shape where
  | value
  | list (item : Shape)
  | map (entry : Shape)
  | record (slots : List Slot) (part : Slot → Shape)

def Fields.shape {α : Type} (fields : Fields α) (nested : List (String × Shape)) : Shape :=
  .record fields.slots fun slot => (nested.lookup slot.name).getD .value

/-- The last value is the one before with one more member. Its value is given, and it stands at the path,
in an object that is read field by field, under a key that is not a name of any of the fields. -/
inductive Extended : Shape → List Step → Json → Json → Json → Prop where
  | here {slots : List Slot} {part : Slot → Shape} {ms rest : Members} {key : String} {u : Json}
      (hkey : key ∉ slots.flatMap Slot.names) :
      Extended (.record slots part) [.key key] u (.obj (ms ++ rest)) (.obj (ms ++ (key, u) :: rest))
  | member {slots : List Slot} {part : Slot → Shape} {ms : Members} {slot : Slot} {name : String}
      {path : List Step} {u v w : Json} (hslot : slot ∈ slots) (hfind : slot.find? ms = some (name, v))
      (h : Extended (part slot) path u v w) :
      Extended (.record slots part) (.key name :: path) u (.obj ms) (.obj (ms.put name w))
  | item {s : Shape} {path : List Step} {u v w : Json} {before after : List Json}
      (h : Extended s path u v w) :
      Extended (.list s) (.index before.length :: path) u
        (.arr (before ++ v :: after)) (.arr (before ++ w :: after))
  | entry {s : Shape} {path : List Step} {u v w : Json} {key : String} {before after : Members}
      (h : Extended s path u v w) :
      Extended (.map s) (.key key :: path) u
        (.obj (before ++ (key, v) :: after)) (.obj (before ++ (key, w) :: after))

theorem Extended.ne_null {s : Shape} {path : List Step} {u v w : Json} (h : Extended s path u v w) :
    v ≠ .null ∧ w ≠ .null := by
  cases h <;> exact ⟨Json.noConfusion, Json.noConfusion⟩

/-- What becomes of the value of a field when an object changes: it is the same value, or one with one
more member, which is the only fault if it is refused. -/
inductive Slot.Change (slot : Slot) (s : Shape) (ms ns : Members) : List Fault → Prop where
  | same (h : slot.find? ms = slot.find? ns) : Change slot s ms ns []
  | extended {name : String} {path : List Step} {u v w : Json} (hm : slot.find? ms = some (name, v))
      (hn : slot.find? ns = some (name, w)) (h : Extended s path u v w) :
      Change slot s ms ns [⟨.unknownKey, .key name :: path, u⟩]

section
variable {slots : List Slot} {part : Slot → Shape} {ms ns : Members} {slot other : Slot} {name : String}
  {path : List Step} {u v w : Json}

theorem Slot.eq_of_name_mem (hnames : (slots.flatMap Slot.names).Nodup) (hs : slot ∈ slots)
    (ho : other ∈ slots) (hname : name ∈ slot.names) (hother : name ∈ other.names) : slot = other := by
  by_contra hne
  have hpair := (List.nodup_flatMap.mp hnames).2
  have : Std.Symm (Function.onFun List.Disjoint Slot.names) := ⟨fun _ _ h _ hs ho => h ho hs⟩
  exact hpair.forall hs ho hne hname hother

theorem Slot.eq_of_name_eq (hnames : (slots.flatMap Slot.names).Nodup) (hs : slot ∈ slots)
    (ho : other ∈ slots) (h : slot.name = other.name) : slot = other :=
  Slot.eq_of_name_mem hnames hs ho List.mem_cons_self (h ▸ List.mem_cons_self)

theorem Slot.change_put (hnames : (slots.flatMap Slot.names).Nodup) (hslot : slot ∈ slots)
    (hfind : slot.find? ms = some (name, v)) (h : Extended (part slot) path u v w) (ho : other ∈ slots) :
    other.Change (part other) ms (ms.put name w)
      (if other.name = slot.name then [⟨.unknownKey, .key name :: path, u⟩] else []) := by
  by_cases heq : other.name = slot.name
  · rw [if_pos heq, Slot.eq_of_name_eq hnames ho hslot heq]
    exact .extended hfind (find?_put hfind) h
  · rw [if_neg heq]
    refine .same (find?_put_of_notMem fun hm => heq ?_)
    rw [Slot.eq_of_name_mem hnames ho hslot hm (name_mem hfind)]

end

end Wire

end TrackerFilter
