import TrackerFilter.Proofs.Catalog.Keys
import TrackerFilter.Proofs.Draft.Save

/-!
The policy on security levels. The note looks for a filter on the system field by its key as well as by
the type of its field, and the rule on inclusions looks at the type alone. So under the policy security
levels can be excluded by a filter on the key of the system field where its type is another one, and
nowhere else.
-/
namespace TrackerFilter

namespace FieldFilter

/-- Excludes values of the system field for security levels where its type does not tell. -/
def EvadesPolicy (fields : List CatalogField) (v : FieldFilter) : Prop :=
  v.key = SystemField.security ∧ v.inclusion = .excludeAny ∧
    ∃ field, findField fields v.key = some field ∧ field.schema.type ≠ SchemaType.securityLevel

theorem restrictsSecurity_iff {fields : List CatalogField} {v : FieldFilter} :
    v.restrictsSecurity fields = true ↔ v.key = SystemField.security ∨
      ∃ field, findField fields v.key = some field ∧ field.schema.type = SchemaType.securityLevel := by
  cases hf : findField fields v.key <;>
    simp [restrictsSecurity, isSecurity, CatalogField.isSecurityLevel, hf]

theorem type_ne_of_excludeAny {field : CatalogField} {v : FieldFilter}
    (h : v.faults ⟨true⟩ field = []) (hi : v.inclusion = .excludeAny) :
    field.schema.type ≠ SchemaType.securityLevel := by
  simp only [faults, inclusionFaults, List.append_eq_nil_iff, refusedIf_eq_nil] at h
  intro ht
  exact h.1.2 ⟨hi, ht, trivial⟩

end FieldFilter

theorem Note.mem_append_onSecurity {removed : List String} {f : Subscription}
    {fields : List CatalogField} :
    securityLevel ∈ onRemoval removed ++ onSecurity f fields true ↔
      f.restrictsSecurity fields = false := by
  simp [mem_onRemoval, mem_onSecurity, securityLevel_ne_fieldRemoved]

namespace Subscription

section
variable {m : Option Metadata} {f : Subscription} {b : Bool} {a : Acceptance} {v : FieldFilter}

theorem exists_sound_of_saved (hs : f.save m b = .ok a) (hv : v ∈ a.subscription.fields) :
    ∃ u ∈ f.fields, u.normalized = v ∧
      ∃ field, findField (f.catalog m) v.key = some field ∧ u.faults ⟨b⟩ field = [] := by
  obtain ⟨u, hu, field, hf, rfl⟩ := (mem_saved hs).mp hv
  exact ⟨u, hu, rfl, field, hf, (save_eq_ok.mp hs).1.filters u hu field hf⟩

theorem saved_excludes_iff (hs : f.save m true = .ok a) (hv : v ∈ a.subscription.fields) :
    v.restrictsSecurity (f.catalog m) = true ∧ v.inclusion = .excludeAny ↔
      v.EvadesPolicy (f.catalog m) := by
  obtain ⟨u, _, rfl, field, hf, hn⟩ := exists_sound_of_saved hs hv
  constructor
  · intro h
    obtain ⟨hr, hi⟩ := h
    have ht := FieldFilter.type_ne_of_excludeAny hn hi
    -- the rule excludes the type, so only the key can have told
    rcases FieldFilter.restrictsSecurity_iff.mp hr with hk | ⟨field', hf', ht'⟩
    · exact ⟨hk, hi, field, hf, ht⟩
    · rw [hf] at hf'
      exact absurd (Option.some.inj hf' ▸ ht') ht
  · intro h
    exact ⟨FieldFilter.restrictsSecurity_iff.mpr (.inl h.1), h.2.1⟩

theorem exists_saved_evades_iff (hs : f.save m b = .ok a) :
    (∃ v ∈ a.subscription.fields, v.EvadesPolicy (f.catalog m)) ↔
      ∃ v ∈ f.fields, v.EvadesPolicy (f.catalog m) := by
  constructor
  · intro h
    obtain ⟨v, hv, he⟩ := h
    obtain ⟨u, hu, _, _, rfl⟩ := (mem_saved hs).mp hv
    exact ⟨u, hu, he⟩
  · intro h
    obtain ⟨u, hu, he⟩ := h
    obtain ⟨field, hf, _⟩ := he.2.2
    exact ⟨u.normalized, (mem_saved hs).mpr ⟨u, hu, field, hf, rfl⟩, he⟩

/-- Under the policy a saved filter that silences the note excludes values exactly if it goes by the key
of the system field and the catalog has it under another type; such filters are saved as soon as there
are any. The note is given where no saved filter silences it. -/
theorem saved_security_filters (hs : f.save m true = .ok a) :
    (∀ v ∈ a.subscription.fields, v.restrictsSecurity (f.catalog m) = true ∧ v.inclusion = .excludeAny ↔
        v.EvadesPolicy (f.catalog m)) ∧
      ((∃ v ∈ a.subscription.fields, v.EvadesPolicy (f.catalog m)) ↔
        ∃ v ∈ f.fields, v.EvadesPolicy (f.catalog m)) ∧
      (Note.securityLevel ∈ a.notes ↔
        ∀ v ∈ a.subscription.fields, v.restrictsSecurity (f.catalog m) = false) := by
  refine ⟨fun v hv => saved_excludes_iff hs hv, exists_saved_evades_iff hs, ?_⟩
  obtain ⟨_, _, rfl⟩ := save_eq_ok.mp hs
  simp only [accepted, Gate.accept, Note.mem_append_onSecurity, restrictsSecurity,
    List.any_eq_false, Bool.not_eq_true]

end

end Subscription

def secured : Metadata where
  projects := [⟨"KT", [⟨"1", "Bug", false, [("security",
    ⟨some "security", "Security Level", false, ⟨SchemaType.security, none, none, some "security"⟩,
      some [⟨"10", some "Internal", none⟩]⟩)]⟩]⟩]
  workflows := []

def excludingDraft : Subscription :=
  ⟨["event_created"], ["KT"], ["1"], [⟨"security", .excludeAny, ["10"]⟩]⟩

namespace Subscription

theorem exclusion_saved_without_note :
    excludingDraft.save (some secured) true = .ok ⟨excludingDraft, [], []⟩ ∧
      ∃ v ∈ excludingDraft.fields, v.restrictsSecurity (excludingDraft.catalog (some secured)) = true ∧
        v.inclusion = .excludeAny := by
  decide +kernel

theorem excludingDraft_evades :
    excludingDraft.save (some secured) true = .ok ⟨excludingDraft, [], []⟩ ∧
      Note.securityLevel ∉ (⟨excludingDraft, [], []⟩ : Acceptance).notes ∧
      ∃ v ∈ excludingDraft.fields, v.EvadesPolicy (excludingDraft.catalog (some secured)) := by
  have hs : excludingDraft.save (some secured) true = .ok ⟨excludingDraft, [], []⟩ := by
    decide +kernel
  have hr : FieldFilter.restrictsSecurity (excludingDraft.catalog (some secured))
      ⟨"security", .excludeAny, ["10"]⟩ = true := by decide +kernel
  have hsec := saved_security_filters hs
  have hv : ⟨"security", .excludeAny, ["10"]⟩ ∈ excludingDraft.fields := List.mem_cons_self
  refine ⟨hs, fun hn => ?_, _, hv, (hsec.1 _ hv).mp ⟨hr, rfl⟩⟩
  exact Bool.false_ne_true ((hsec.2.2.mp hn _ hv).symm.trans hr)

end Subscription

end TrackerFilter
