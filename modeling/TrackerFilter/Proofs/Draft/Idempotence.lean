import TrackerFilter.Proofs.Draft.Save

/-!
Saving what was saved. No rule that a subscription kept is broken by its normal form: the filters that
stay are judged alike with and without their idle values, and the dropped ones were not judged at all. So
a second save accepts the result of the first as it is.
-/
namespace TrackerFilter

def Acceptance.repeated (a : Acceptance) : Acceptance :=
  ⟨a.subscription, a.notes.filter (· ≠ Note.fieldRemoved), []⟩

namespace FieldFilter

theorem faults_normalized (policy : Policy) (field : CatalogField) (v : FieldFilter) :
    v.normalized.faults policy field = v.faults policy field := by
  by_cases hi : v.inclusion = .empty
  · simp [faults, inclusionFaults, normalized, hi]
  · simp [faults, inclusionFaults, normalized, hi, distinct, distinctBy_eq_nil]

end FieldFilter

namespace Gate

section
variable {policy : Policy} {fields : List CatalogField} {issueTypes : List IssueType} {f : Subscription}
  {a : Acceptance}

theorem filterFaults_kept (policy : Policy) (fields : List CatalogField) (filters : List FieldFilter) :
    filterFaults policy fields (screened fields filters).kept = filterFaults policy fields filters := by
  induction filters with
  | nil => rfl
  | cons v rest ih =>
    simp only [filterFaults] at ih
    cases hf : findField fields v.key with
    -- a filter on a field that is gone has no faults either
    | none => simp [filterFaults, screened_cons_gone hf, hf, ih]
    | some field =>
      have hn : findField fields v.normalized.key = some field := hf
      simp [filterFaults, screened_cons_found hf, hf, hn, FieldFilter.faults_normalized, ih]

theorem screened_kept (fields : List CatalogField) (filters : List FieldFilter) :
    screened fields (screened fields filters).kept = ⟨(screened fields filters).kept, []⟩ := by
  induction filters with
  | nil => rfl
  | cons v rest ih =>
    cases hf : findField fields v.key with
    | none =>
      rw [screened_cons_gone hf]
      exact ih
    | some field =>
      have hn : findField fields v.normalized.key = some field := hf
      rw [screened_cons_found hf, screened_cons_found hn, ih, v.normalized_normalized]

theorem evaluate_eq_ok :
    evaluate policy fields issueTypes f = .ok a ↔
      (faults policy fields f = [] ∧ conflictFaults fields issueTypes f.issueTypes f.fields = []) ∧
        accept policy fields f (screened fields f.fields) = a := by
  rw [evaluate_eq, verdict_eq_ok, List.append_eq_nil_iff]

theorem filter_notes (removed : List String) (f : Subscription) (fields : List CatalogField) (b : Bool) :
    (Note.onRemoval removed ++ Note.onSecurity f fields b).filter (· ≠ Note.fieldRemoved) =
      Note.onSecurity f fields b := by
  rw [List.filter_append, Note.filter_ne fun _ hn => (Note.mem_onRemoval.mp hn).1,
    Note.filter_ne fun _ hn => (Note.mem_onSecurity.mp hn).1, if_pos rfl,
    if_neg Note.securityLevel_ne_fieldRemoved, List.nil_append]

theorem evaluate_repeated (h : evaluate policy fields issueTypes f = .ok a) :
    evaluate policy fields issueTypes a.subscription = .ok a.repeated := by
  obtain ⟨⟨hf, hc⟩, rfl⟩ := evaluate_eq_ok.mp h
  have hfk : faults policy fields { f with fields := (screened fields f.fields).kept } = [] := by
    simpa [faults, projectFaults, Subscription.projectKey, filterFaults_kept] using hf
  have hck : conflictFaults fields issueTypes f.issueTypes (screened fields f.fields).kept = [] := by
    rw [conflictFaults, first?_kept]
    exact hc
  refine evaluate_eq_ok.mpr ⟨⟨hfk, hck⟩, ?_⟩
  simp only [accept, screened_kept, Acceptance.repeated, filter_notes]
  rfl

end

end Gate

namespace Subscription

theorem save_withFields (m : Option Metadata) (f : Subscription) (fields : List FieldFilter) (b : Bool) :
    save m { f with fields := fields } b = (do
      f.checkProjectKnown m
      Gate.evaluate ⟨b⟩ (f.catalog m) (f.offeredIssueTypes m) { f with fields := fields }) := rfl

theorem save_repeated {m : Option Metadata} {f : Subscription} {b : Bool} {a : Acceptance}
    (h : f.save m b = .ok a) : a.subscription.save m b = .ok a.repeated := by
  rw [save] at h
  cases hp : f.checkProjectKnown m with
  | error r => simp [hp, bind, Except.bind] at h
  | ok u =>
    rw [hp] at h
    have he : Gate.evaluate ⟨b⟩ (f.catalog m) (f.offeredIssueTypes m) f = .ok a := h
    have hr := Gate.evaluate_repeated he
    obtain ⟨_, rfl⟩ := Gate.evaluate_eq_ok.mp he
    rw [Gate.accept] at hr ⊢
    rw [save_withFields, hp]
    exact hr

/-- Saving and the gate accept what they have accepted, as it is: nothing is dropped, and the notes are
those of the first time but for the one on removed fields. -/
theorem saving_idempotent :
    (∀ m f b a, save m f b = .ok a → save m a.subscription b = .ok a.repeated) ∧
      ∀ policy fields issueTypes f a, Gate.evaluate policy fields issueTypes f = .ok a →
        Gate.evaluate policy fields issueTypes a.subscription = .ok a.repeated :=
  ⟨fun _ _ _ _ => save_repeated, fun _ _ _ _ _ => Gate.evaluate_repeated⟩

theorem untidyDraft_saved_twice :
    save (some prioritized) untidyDraft true = .ok tidied ∧
      save (some prioritized) tidied.subscription true =
        .ok ⟨tidied.subscription, [Note.securityLevel], []⟩ ∧
      Gate.evaluate ⟨true⟩ (untidyDraft.catalog (some prioritized)) [] tidied.subscription =
        .ok ⟨tidied.subscription, [Note.securityLevel], []⟩ := by
  have he : Gate.evaluate ⟨true⟩ (untidyDraft.catalog (some prioritized)) [] untidyDraft =
      .ok tidied := by decide +kernel
  have hne : Note.securityLevel ≠ Note.fieldRemoved := by decide
  have hr : tidied.repeated = ⟨tidied.subscription, [Note.securityLevel], []⟩ := by
    simp [Acceptance.repeated, tidied, hne]
  refine ⟨save_untidyDraft, ?_, ?_⟩
  · exact hr ▸ saving_idempotent.1 _ _ _ _ save_untidyDraft
  · exact hr ▸ saving_idempotent.2 _ _ _ _ _ he

end Subscription

end TrackerFilter
