import Mathlib.Data.List.Nodup
import TrackerFilter.Wire.Standard

/-!
What the documentation of the library says about the values that JSON has, as far as anything here rests
on it. What becomes of any other value, such as a number for a text, is left open. The readers that the
program runs with are as documented.
-/
namespace TrackerFilter

namespace Wire

namespace Library

structure Documented (L : Library) : Prop where
  text_str : ∀ s, L.text (.str s) = .sound s
  textual_str : ∀ s, L.textual (.str s) = .sound s
  boolean_bool : ∀ b, L.boolean (.bool b) = .sound b
  among_name : ∀ {α : Type} (name : α → String) (choices : List α), (choices.map name).Nodup →
    ∀ a ∈ choices, L.among name choices (.str (name a)) = .sound a
  nonempty_sound : ∀ d v s, L.nonempty d v = .sound s ↔ d v = .sound s ∧ s ≠ ""
  nullable_null : ∀ {α : Type} (d : Decoder α), L.nullable d .null = .sound none
  nullable_of_ne : ∀ {α : Type} (d : Decoder α) v, v ≠ .null → L.nullable d v = (d v).map some
  list_arr : ∀ {α : Type} (d : Decoder α) vs, L.list d (.arr vs) = items d 0 vs
  list_sound : ∀ {α : Type} (d : Decoder α) v xs, L.list d v = .sound xs → ∃ vs, v = .arr vs
  mapping_obj : ∀ {α : Type} (d : Decoder α) members, L.mapping d (.obj members) = entries d members
  record_obj : ∀ {α : Type} (fields : Fields α) title unknown members,
    L.record fields title unknown (.obj members) = fields.check unknown members
  record_sound : ∀ {α : Type} (fields : Fields α) title unknown v a,
    L.record fields title unknown v = .sound a → ∃ members, v = .obj members
  after_sound : ∀ {α : Type} (rule : α → Except String α) (d : Decoder α) v b,
    L.after rule d v = .sound b ↔ ∃ a, d v = .sound a ∧ rule a = .ok b

theorem readAmong_name {α : Type} (name : α → String) (choices : List α) (h : (choices.map name).Nodup)
    (a : α) (ha : a ∈ choices) : readAmong name choices (.str (name a)) = .sound a := by
  have hfind : choices.find? (fun b => name b = name a) = some a := by
    obtain ⟨b, hb⟩ : ∃ b, choices.find? (fun b => name b = name a) = some b :=
      Option.isSome_iff_exists.mp (List.find?_isSome.mpr ⟨a, ha, by simp⟩)
    have hname : name b = name a := by simpa using List.find?_some hb
    obtain rfl : b = a := List.inj_on_of_nodup_map h (List.mem_of_find?_eq_some hb) ha hname
    exact hb
  simp [readAmong, hfind]

theorem readNonempty_sound (d : Decoder String) (v : Json) (s : String) :
    readNonempty d v = .sound s ↔ d v = .sound s ∧ s ≠ "" := by
  cases hd : d v with
  | faulty fs => simp [readNonempty, hd]
  | sound a =>
    by_cases ha : a = ""
    · simp [readNonempty, hd, ha, Checked.fault]
    · simp only [readNonempty, hd, if_neg ha, Checked.sound.injEq]
      constructor
      · rintro rfl
        exact ⟨rfl, ha⟩
      · exact And.left

theorem readAfter_sound {α : Type} (rule : α → Except String α) (d : Decoder α) (v : Json) (b : α) :
    readAfter rule d v = .sound b ↔ ∃ a, d v = .sound a ∧ rule a = .ok b := by
  cases hd : d v with
  | faulty fs => simp [readAfter, hd]
  | sound a =>
    cases hr : rule a <;> simp [readAfter, hd, hr, Checked.fault]

theorem standard_documented : standard.Documented where
  text_str := fun _ => rfl
  textual_str := fun _ => rfl
  boolean_bool := fun _ => rfl
  among_name := readAmong_name
  nonempty_sound := readNonempty_sound
  nullable_null := fun _ => rfl
  nullable_of_ne := by
    intro α d v h
    cases v with
    | null => exact absurd rfl h
    | _ => rfl
  list_arr := fun _ _ => rfl
  list_sound := by
    intro α d v xs h
    cases v with
    | arr vs => exact ⟨vs, rfl⟩
    | _ => exact nomatch h
  mapping_obj := fun _ _ => rfl
  record_obj := fun _ _ _ _ => rfl
  record_sound := by
    intro α fields title unknown v a h
    cases v with
    | obj members => exact ⟨members, rfl⟩
    | _ => exact nomatch h
  after_sound := readAfter_sound

end Library

end Wire

end TrackerFilter
