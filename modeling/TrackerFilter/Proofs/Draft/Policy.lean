import TrackerFilter.Proofs.Draft.Security

/-!
Saving with and without the policy on security levels. The policy adds one kind of refusal, at the filters
that exclude values of a security level, and one note; without it the other broken rules stand in the same
order. So what is saved under the policy is saved without it, and what is saved without it can only be
refused for an excluded security level.
-/
namespace TrackerFilter

def withoutPolicy (rs : List Refusal) : List Refusal := rs.filter (· ≠ .securityLevelExcluded)

def Acceptance.withoutPolicy (a : Acceptance) : Acceptance :=
  { a with notes := a.notes.filter (· ≠ Note.securityLevel) }

theorem withoutPolicy_append (rs ss : List Refusal) :
    withoutPolicy (rs ++ ss) = withoutPolicy rs ++ withoutPolicy ss :=
  List.filter_append ..

theorem withoutPolicy_eq_self {rs : List Refusal} (h : .securityLevelExcluded ∉ rs) :
    withoutPolicy rs = rs := by
  refine List.filter_eq_self.mpr fun r hr => ?_
  have hne : r ≠ .securityLevelExcluded := fun e => h (e ▸ hr)
  simpa using hne

theorem withoutPolicy_refusedIf {p : Prop} [Decidable p] {r : Refusal}
    (h : r ≠ .securityLevelExcluded) : withoutPolicy (refusedIf p r) = refusedIf p r :=
  withoutPolicy_eq_self fun hm => h (mem_refusedIf.mp hm).2.symm

theorem withoutPolicy_excluded (p : Prop) [Decidable p] :
    withoutPolicy (refusedIf p .securityLevelExcluded) = [] := by
  by_cases hp : p <;> simp [withoutPolicy, refusedIf, hp]

namespace FieldFilter

theorem faults_withoutPolicy (field : CatalogField) (v : FieldFilter) :
    withoutPolicy (v.faults ⟨true⟩ field) = v.faults ⟨false⟩ field := by
  rw [faults, inclusionFaults, withoutPolicy_append, withoutPolicy_append,
    withoutPolicy_refusedIf (by simp), withoutPolicy_excluded, withoutPolicy_refusedIf (by simp)]
  simp [faults, inclusionFaults, refusedIf]

theorem securityLevelExcluded_mem_faults {b : Bool} {field : CatalogField} {v : FieldFilter} :
    .securityLevelExcluded ∈ v.faults ⟨b⟩ field ↔
      v.inclusion = .excludeAny ∧ field.schema.type = SchemaType.securityLevel ∧ b = true := by
  simp [faults, inclusionFaults, mem_refusedIf]

end FieldFilter

namespace Gate

theorem filterFaults_withoutPolicy (fields : List CatalogField) (filters : List FieldFilter) :
    withoutPolicy (filterFaults ⟨true⟩ fields filters) = filterFaults ⟨false⟩ fields filters := by
  induction filters with
  | nil => rfl
  | cons v rest ih =>
    simp only [filterFaults, List.flatMap_cons, withoutPolicy_append] at ih ⊢
    rw [ih]
    cases findField fields v.key with
    -- a filter on a field that is gone has no faults under either policy
    | none => rfl
    | some field => rw [v.faults_withoutPolicy]

theorem filter_notes_securityLevel (removed : List String) (f : Subscription)
    (fields : List CatalogField) :
    (Note.onRemoval removed ++ Note.onSecurity f fields true).filter (· ≠ Note.securityLevel) =
      Note.onRemoval removed ++ Note.onSecurity f fields false := by
  rw [List.filter_append, Note.filter_ne fun _ hn => (Note.mem_onRemoval.mp hn).1,
    Note.filter_ne fun _ hn => (Note.mem_onSecurity.mp hn).1, if_pos rfl,
    if_neg Note.securityLevel_ne_fieldRemoved.symm]
  rfl

end Gate

namespace Subscription

def ExcludesLevels (m : Option Metadata) (f : Subscription) : Prop :=
  ∃ v ∈ f.fields, v.inclusion = .excludeAny ∧
    ∃ field, findField (f.catalog m) v.key = some field ∧ field.schema.type = SchemaType.securityLevel

def generalFaults (m : Option Metadata) (f : Subscription) : List Refusal :=
  unknownProjectFaults m f ++ (Gate.projectFaults f ++ (Gate.eventFaults f.events ++
    Gate.issueTypeFaults f.issueTypes))

section
variable {m : Option Metadata} {f : Subscription} {a : Acceptance} {r : Refusal}

theorem faults_eq (m : Option Metadata) (f : Subscription) (b : Bool) :
    f.faults m b = generalFaults m f ++ Gate.filterFaults ⟨b⟩ (f.catalog m) f.fields := by
  simp only [faults, Gate.faults, generalFaults, List.append_assoc]

theorem securityLevelExcluded_notMem_generalFaults : .securityLevelExcluded ∉ generalFaults m f := by
  have hu : .securityLevelExcluded ∉ unknownProjectFaults m f := by
    rw [unknownProjectFaults]
    cases f.projectKey <;> simp [mem_refusedIf]
  simp [generalFaults, Gate.projectFaults, Gate.eventFaults, Gate.issueTypeFaults, mem_refusedIf, hu]

theorem faults_withoutPolicy (m : Option Metadata) (f : Subscription) :
    withoutPolicy (f.faults m true) = f.faults m false := by
  rw [faults_eq, faults_eq, withoutPolicy_append, Gate.filterFaults_withoutPolicy,
    withoutPolicy_eq_self securityLevelExcluded_notMem_generalFaults]

theorem accepted_withoutPolicy (m : Option Metadata) (f : Subscription) :
    (f.accepted m true).withoutPolicy = f.accepted m false := by
  simp only [accepted, Gate.accept, Acceptance.withoutPolicy, Gate.filter_notes_securityLevel]

theorem securityLevelExcluded_mem_faults :
    .securityLevelExcluded ∈ f.faults m true ↔ f.ExcludesLevels m := by
  rw [faults_eq, List.mem_append, or_iff_right securityLevelExcluded_notMem_generalFaults,
    Gate.filterFaults, List.mem_flatMap]
  refine exists_congr fun v => and_congr_right fun _ => ?_
  cases findField (f.catalog m) v.key with
  | none => simp
  | some field => simp [FieldFilter.securityLevelExcluded_mem_faults]

theorem save_without_policy (hs : f.save m true = .ok a) : f.save m false = .ok a.withoutPolicy := by
  rw [save_eq, verdict_eq_ok, List.append_eq_nil_iff] at hs ⊢
  obtain ⟨⟨hf, hc⟩, rfl⟩ := hs
  refine ⟨⟨?_, hc⟩, (accepted_withoutPolicy m f).symm⟩
  rw [← faults_withoutPolicy, hf]
  rfl

/-- Where the draft can be saved without the policy, excluded security levels are all that can be wrong
with it. -/
theorem eq_securityLevelExcluded_of_mem_faults (hs : f.save m false = .ok a)
    (hr : r ∈ f.faults m true) : r = .securityLevelExcluded := by
  rw [save_eq, verdict_eq_ok, List.append_eq_nil_iff, ← faults_withoutPolicy, withoutPolicy,
    List.filter_eq_nil_iff] at hs
  simpa using hs.1.1 r hr

theorem save_under_policy (hs : f.save m false = .ok a) :
    f.save m true = verdict (f.faults m true) (f.accepted m true) := by
  rw [save_eq, verdict_eq_ok, List.append_eq_nil_iff] at hs
  rw [save_eq, hs.1.2, List.append_nil]

/-- A draft that is saved under the policy is saved without it, with the same filters and no note on
security levels. One that is saved without the policy is refused under it exactly if a filter excludes
security levels, and for this reason. -/
theorem policy_monotone (m : Option Metadata) (f : Subscription) :
    (∀ a, f.save m true = .ok a → f.save m false = .ok a.withoutPolicy) ∧
      ∀ a, f.save m false = .ok a →
        (∀ r, f.save m true = .error r → r.code = "SECURITY_LEVEL_EXCLUDE_ANY") ∧
          ((∃ r, f.save m true = .error r) ↔ f.ExcludesLevels m) := by
  refine ⟨fun a hs => save_without_policy hs, fun a hs => ⟨fun r hr => ?_, ?_⟩⟩
  · rw [save_under_policy hs, verdict_eq_error] at hr
    rw [eq_securityLevelExcluded_of_mem_faults hs (List.mem_of_mem_head? hr)]
    rfl
  · simp only [save_under_policy hs, verdict_eq_error, ← securityLevelExcluded_mem_faults]
    constructor
    · intro h
      obtain ⟨r, hr⟩ := h
      have hm := List.mem_of_mem_head? hr
      exact eq_securityLevelExcluded_of_mem_faults hs hm ▸ hm
    · intro h
      exact Option.isSome_iff_exists.mp (List.isSome_head?.mpr (List.ne_nil_of_mem h))

end

end Subscription

def leveled : Metadata where
  projects := [⟨"KT", [⟨"1", "Bug", false, [("security",
    ⟨some "security", "Security Level", false, ⟨SchemaType.securityLevel, none, none, some "security"⟩,
      some [⟨"10", some "Internal", none⟩]⟩)]⟩]⟩]
  workflows := []

namespace Subscription

theorem drafts_without_policy :
    untidyDraft.save (some prioritized) true = .ok tidied ∧
      untidyDraft.save (some prioritized) false = .ok { tidied with notes := [Note.fieldRemoved] } ∧
      excludingDraft.save (some leveled) false = .ok ⟨excludingDraft, [], []⟩ ∧
      ∃ r, excludingDraft.save (some leveled) true = .error r ∧
        r.code = "SECURITY_LEVEL_EXCLUDE_ANY" := by
  have hs : excludingDraft.save (some leveled) false = .ok ⟨excludingDraft, [], []⟩ := by
    decide +kernel
  obtain ⟨hcode, hrefused⟩ := (policy_monotone (some leveled) excludingDraft).2 _ hs
  have htype : (findField (excludingDraft.catalog (some leveled)) "security").map (·.schema.type) =
      some SchemaType.securityLevel := by decide +kernel
  obtain ⟨field, hf, ht⟩ := Option.map_eq_some_iff.mp htype
  have hx : excludingDraft.ExcludesLevels (some leveled) :=
    ⟨_, List.mem_singleton_self _, rfl, field, hf, ht⟩
  obtain ⟨r, hr⟩ := hrefused.mpr hx
  exact ⟨save_untidyDraft, (policy_monotone (some prioritized) untidyDraft).1 _ save_untidyDraft, hs,
    r, hr, hcode r hr⟩

end Subscription

end TrackerFilter
