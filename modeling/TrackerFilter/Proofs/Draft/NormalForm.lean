import TrackerFilter.Proofs.Draft.Save
import TrackerFilter.Proofs.Distinct

/-!
The normal form of a saved draft. Saving parts the filters by their keys. Those that the catalog has
stay in order, each value once; of the others only the keys are left, which are the stale ones.
-/
namespace TrackerFilter

theorem findField_eq_none_iff_notMem {fields : List CatalogField} {key : String} :
    findField fields key = none ↔ key ∉ fields.map CatalogField.key := by
  simp [findField]

theorem FieldFilter.normalized_eq (v : FieldFilter) :
    v.normalized = ⟨v.key, v.inclusion, if v.inclusion = .empty then [] else v.values.eraseDups⟩ := by
  rw [normalized, distinct_eq_eraseDups]

namespace Gate

variable (fields : List CatalogField) (f : Subscription)

theorem removed_screened : (screened fields f.fields).removed = f.staleKeys fields := by
  have h : ∀ v : FieldFilter, (findField fields v.key).isNone =
      !(fields.map CatalogField.key).contains v.key := by
    intro v
    rw [Bool.eq_iff_iff, Option.isNone_iff_eq_none, findField_eq_none_iff_notMem]
    simp
  rw [screened, Subscription.staleKeys, List.filter_map]
  simp only [h, Function.comp_def]

theorem kept_screened :
    (screened fields f.fields).kept =
      (f.fields.filter fun v => v.key ∉ f.staleKeys fields).map FieldFilter.normalized := by
  rw [screened]
  refine congrArg (List.map FieldFilter.normalized) (List.filter_congr fun v hv => ?_)
  have hs : v.key ∈ f.staleKeys fields ↔ v.key ∉ fields.map CatalogField.key := by
    simpa [Subscription.staleKeys] using fun _ => ⟨v, hv, rfl⟩
  rw [Bool.eq_iff_iff, decide_eq_true_eq, hs, ← findField_eq_none_iff_notMem]
  exact Option.ne_none_iff_isSome.symm

end Gate

namespace Subscription

section
variable {m : Option Metadata} {f : Subscription} {b : Bool} {a : Acceptance}

/-- Saving drops the stale keys and keeps every other filter in its place, without values if it asks for
none and else with each value once. It changes nothing else of the draft, and its first note tells of
removed fields exactly where there are any. -/
theorem saved_partition (hs : f.save m b = .ok a) :
    a.removed = f.staleKeys (f.catalog m) ∧
      a.subscription = { f with
        fields := (f.fields.filter fun v => v.key ∉ f.staleKeys (f.catalog m)).map fun v =>
          ⟨v.key, v.inclusion, if v.inclusion = .empty then [] else v.values.eraseDups⟩ } ∧
      (a.removed ≠ [] → ∃ rest, a.notes = Note.fieldRemoved :: rest ∧ Note.fieldRemoved ∉ rest) ∧
      (Note.fieldRemoved ∈ a.notes → a.removed ≠ []) := by
  obtain ⟨_, _, rfl⟩ := save_eq_ok.mp hs
  have hn : ∀ g, Note.fieldRemoved ∉ Note.onSecurity g (f.catalog m) b := fun g hm =>
    Note.securityLevel_ne_fieldRemoved (Note.mem_onSecurity.mp hm).1.symm
  simp only [accepted, Gate.accept, Gate.removed_screened, Gate.kept_screened]
  refine ⟨trivial, ?_, ?_, ?_⟩
  · rw [funext FieldFilter.normalized_eq]
  · intro hr
    obtain ⟨key, rest, hr⟩ := List.exists_cons_of_ne_nil hr
    rw [hr]
    exact ⟨_, rfl, hn _⟩
  · intro hm hr
    rw [hr] at hm
    exact hn _ hm

end

end Subscription

def driftedDraft : Subscription :=
  ⟨["event_created"], ["KT"], ["1", "2"], [⟨"gone", .includeAny, ["x"]⟩,
    ⟨"priority", .excludeAny, ["2", "1", "2"]⟩, ⟨"gone", .empty, []⟩, ⟨"epic", .empty, ["KT-1"]⟩]⟩

namespace Subscription

theorem driftedDraft_partition :
    driftedDraft.save (some prioritized) false =
        .ok (driftedDraft.accepted (some prioritized) false) ∧
      driftedDraft.staleKeys (driftedDraft.catalog (some prioritized)) = ["gone", "gone"] ∧
      (driftedDraft.accepted (some prioritized) false).subscription.fields =
        [⟨"priority", .excludeAny, ["2", "1"]⟩, ⟨"epic", .empty, []⟩] := by
  have hs : driftedDraft.save (some prioritized) false =
      .ok (driftedDraft.accepted (some prioritized) false) := by decide +kernel
  have hr : (driftedDraft.accepted (some prioritized) false).removed = ["gone", "gone"] := by
    decide +kernel
  obtain ⟨hstale, hsub, _⟩ := saved_partition hs
  have hg := hstale.symm.trans hr
  refine ⟨hs, hg, ?_⟩
  rw [hsub, hg]
  rfl

end Subscription

end TrackerFilter
