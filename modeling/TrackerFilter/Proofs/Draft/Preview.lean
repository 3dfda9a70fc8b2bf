import TrackerFilter.Proofs.Draft.Drift
import TrackerFilter.Proofs.Draft.Idempotence
import TrackerFilter.Proofs.Draft.Security
import TrackerFilter.Proofs.Query.Length

/-!
The preview of a draft against what saving makes of it. The preview shows the draft as it stands, with
the filters that saving drops and the values that it leaves out; its note on security levels goes by all
of these filters, and that of saving by the ones that stay.
-/
namespace TrackerFilter

namespace Gate

open Query (room)

theorem sum_room_kept_le (fields : List CatalogField) (filters : List FieldFilter) :
    ((screened fields filters).kept.map room).sum ≤ (filters.map room).sum := by
  induction filters with
  | nil => exact Nat.le_refl 0
  | cons v rest ih =>
    cases hf : findField fields v.key with
    | none =>
      simp only [screened_cons_gone hf, List.map_cons, List.sum_cons]
      omega
    | some field =>
      have hv := Query.room_normalized_le v
      simp only [screened_cons_found hf, List.map_cons, List.sum_cons]
      omega

theorem isTidy_of_sum_room_kept (fields : List CatalogField) {filters : List FieldFilter}
    (h : (filters.map room).sum ≤ ((screened fields filters).kept.map room).sum) :
    (screened fields filters).removed = [] ∧ ∀ v ∈ filters, v.IsTidy := by
  induction filters with
  | nil => exact ⟨rfl, by simp⟩
  | cons v rest ih =>
    have hrest := sum_room_kept_le fields rest
    cases hf : findField fields v.key with
    | none =>
      have hv := Query.room_pos v
      simp only [screened_cons_gone hf, List.map_cons, List.sum_cons] at h
      omega
    | some field =>
      have hv := Query.room_normalized_le v
      simp only [screened_cons_found hf, List.map_cons, List.sum_cons] at h ⊢
      obtain ⟨hr, ht⟩ := ih (by omega)
      have hvt : v.IsTidy := by
        by_contra hn
        have hlt := Query.room_normalized_lt hn
        omega
      exact ⟨hr, List.forall_mem_cons.mpr ⟨hvt, ht⟩⟩

theorem kept_eq_map_of_removed_eq_nil {fields : List CatalogField} {filters : List FieldFilter}
    (h : (screened fields filters).removed = []) :
    (screened fields filters).kept = filters.map FieldFilter.normalized := by
  have hall : ∀ v ∈ filters, (findField fields v.key).isSome = true := by
    simpa [screened, List.filter_eq_nil_iff, Option.isNone_iff_eq_none, ← Option.ne_none_iff_isSome]
      using h
  rw [screened, List.filter_eq_self.mpr hall]

end Gate

namespace Subscription

section
variable {m : Option Metadata} {f : Subscription} {b : Bool} {a : Acceptance}

theorem saved_notes (hs : f.save m b = .ok a) :
    a.notes = Note.onRemoval a.removed ++ (a.subscription.preview m b).notes := by
  obtain ⟨_, _, rfl⟩ := save_eq_ok.mp hs
  rfl

theorem restrictsSecurity_saved (hs : f.save m b = .ok a) :
    f.restrictsSecurity (f.catalog m) = true ↔
      a.subscription.restrictsSecurity (f.catalog m) = true ∨ SystemField.security ∈ a.removed := by
  simp only [restrictsSecurity, List.any_eq_true]
  constructor
  · intro h
    obtain ⟨v, hv, hr⟩ := h
    cases hf : findField (f.catalog m) v.key with
    | none =>
      have hk : v.key = SystemField.security := by
        simpa [FieldFilter.restrictsSecurity, FieldFilter.isSecurity, hf] using hr
      exact .inr ((mem_removed hs).mpr (hk ▸ ⟨⟨v, hv, rfl⟩, hf⟩))
    | some field => exact .inl ⟨v.normalized, (mem_saved hs).mpr ⟨v, hv, field, hf, rfl⟩, hr⟩
  · intro h
    rcases h with ⟨v, hv, hr⟩ | hk
    · obtain ⟨u, hu, _, _, rfl⟩ := (mem_saved hs).mp hv
      exact ⟨u, hu, hr⟩
    · obtain ⟨⟨v, hv, hk⟩, _⟩ := (mem_removed hs).mp hk
      exact ⟨v, hv, FieldFilter.restrictsSecurity_iff.mpr (.inl hk)⟩

theorem catalog_saved (hs : f.save m b = .ok a) : a.subscription.catalog m = f.catalog m := by
  obtain ⟨_, _, rfl⟩ := save_eq_ok.mp hs
  rfl

/-- The preview has the note on security levels where saving gives it, except where saving drops a
filter on the key of the security level. -/
theorem previewed_note_iff (hs : f.save m b = .ok a) :
    Note.securityLevel ∈ (f.preview m b).notes ↔
      Note.securityLevel ∈ a.notes ∧ SystemField.security ∉ a.removed := by
  have hr : Note.securityLevel ∉ Note.onRemoval a.removed := fun hm =>
    Note.securityLevel_ne_fieldRemoved (Note.mem_onRemoval.mp hm).1
  simp only [saved_notes hs, List.mem_append, hr, false_or, preview, Preview.ofSubscription,
    Note.mem_onSecurity, catalog_saved hs, ← Bool.not_eq_true, restrictsSecurity_saved hs, not_or,
    and_assoc]

theorem notes_preview_of_removed_eq_nil (hs : f.save m b = .ok a) (hr : a.removed = []) :
    (f.preview m b).notes = (a.subscription.preview m b).notes := by
  have h := restrictsSecurity_saved hs
  rw [hr] at h
  have hb : f.restrictsSecurity (f.catalog m) = a.subscription.restrictsSecurity (f.catalog m) := by
    rw [Bool.eq_iff_iff]
    simpa using h
  simp only [preview, Preview.ofSubscription, Note.onSecurity, catalog_saved hs, hb]

theorem render_saved_eq_iff (hs : f.save m b = .ok a) :
    Query.render a.subscription = Query.render f ↔ a.removed = [] ∧ ∀ v ∈ f.fields, v.IsTidy := by
  obtain ⟨_, _, rfl⟩ := save_eq_ok.mp hs
  constructor
  · intro h
    -- equal queries are equally long, and only what the filters write can differ
    have hnew := Query.length_render (f.accepted m b).subscription
    have hold := Query.length_render f
    have hproject : Query.projectClause (f.accepted m b).subscription = Query.projectClause f := rfl
    have htypes : Query.issueTypeClauses (f.accepted m b).subscription = Query.issueTypeClauses f := rfl
    rw [h, hold, hproject, htypes] at hnew
    refine Gate.isTidy_of_sum_room_kept (f.catalog m) ?_
    show _ ≤ ((f.accepted m b).subscription.fields.map Query.room).sum
    omega
  · intro h
    obtain ⟨hr, ht⟩ := h
    have hk : (f.accepted m b).subscription.fields = f.fields.map FieldFilter.normalized :=
      Gate.kept_eq_map_of_removed_eq_nil hr
    have hc : (f.accepted m b).subscription.fields.map Query.clause = f.fields.map Query.clause := by
      rw [hk, List.map_map]
      exact List.map_congr_left fun v hv => Query.clause_normalized_of_isTidy (ht v hv)
    rw [Query.render, hc]
    rfl

/-- What was previewed is what is saved exactly where nothing is dropped and no filter repeats a value.
Where nothing is dropped the notes agree all the same, and in any case saving notes what the preview of
its result notes, but for the note on removed fields. -/
theorem preview_saved_eq_iff (hs : f.save m b = .ok a) :
    (a.subscription.preview m b = f.preview m b ↔
        a.removed = [] ∧ ∀ v ∈ f.fields, v.inclusion ≠ .empty → v.values.Nodup) ∧
      (a.removed = [] →
        (f.preview m b).notes = a.notes ∧ (a.subscription.preview m b).notes = a.notes) ∧
      (a.subscription.preview m b).notes = a.notes.filter (· ≠ Note.fieldRemoved) := by
  refine ⟨?_, fun hr => ?_, ?_⟩
  · constructor
    · intro h
      exact (render_saved_eq_iff hs).mp (congrArg Preview.query h)
    · intro h
      have hq := (render_saved_eq_iff hs).mpr h
      have hn := notes_preview_of_removed_eq_nil hs h.1
      rw [preview, Preview.ofSubscription, Preview.mk.injEq]
      exact ⟨hq, hn.symm⟩
  · have hn := saved_notes hs
    rw [hr] at hn
    exact ⟨(notes_preview_of_removed_eq_nil hs hr).trans hn.symm, hn.symm⟩
  · rw [saved_notes hs]
    exact (Gate.filter_notes _ _ _ _).symm

end

end Subscription

def unleveledDraft : Subscription :=
  ⟨["event_created"], ["KT"], ["1"], [⟨"security", .includeAny, ["10"]⟩]⟩

def unleveled : Acceptance where
  subscription := { unleveledDraft with fields := [] }
  notes := [Note.fieldRemoved, Note.securityLevel]
  removed := ["security"]

theorem save_unleveledDraft : unleveledDraft.save (some prioritized) true = .ok unleveled := by
  decide +kernel

def leftoverDraft : Subscription :=
  ⟨["event_created"], ["KT"], ["1", "2"], [⟨"epic", .empty, ["KT-1", "KT-1"]⟩,
    ⟨"priority", .includeAny, ["1", "2"]⟩]⟩

namespace Subscription

theorem saved_note_not_previewed :
    unleveledDraft.save (some prioritized) true = .ok unleveled ∧
      ¬ (Note.securityLevel ∈ (unleveledDraft.preview (some prioritized) true).notes ↔
        Note.securityLevel ∈ unleveled.notes) :=
  ⟨save_unleveledDraft, by decide +kernel⟩

theorem previewed_note_drafts :
    untidyDraft.save (some prioritized) true = .ok tidied ∧
      Note.securityLevel ∈ (untidyDraft.preview (some prioritized) true).notes ∧
      unleveledDraft.save (some prioritized) true = .ok unleveled ∧
      Note.securityLevel ∉ (unleveledDraft.preview (some prioritized) true).notes := by
  refine ⟨save_untidyDraft, ?_, save_unleveledDraft, ?_⟩
  · exact (previewed_note_iff save_untidyDraft).mpr (by decide)
  · exact mt (previewed_note_iff save_unleveledDraft).mp (by decide)

theorem leftoverDraft_previewed :
    leftoverDraft.save (some prioritized) true =
        .ok (leftoverDraft.accepted (some prioritized) true) ∧
      (leftoverDraft.accepted (some prioritized) true).subscription.preview (some prioritized) true =
        leftoverDraft.preview (some prioritized) true ∧
      untidyDraft.save (some prioritized) true = .ok tidied ∧
      tidied.subscription.preview (some prioritized) true ≠
        untidyDraft.preview (some prioritized) true := by
  have hs : leftoverDraft.save (some prioritized) true =
      .ok (leftoverDraft.accepted (some prioritized) true) := by decide +kernel
  have hr : (leftoverDraft.accepted (some prioritized) true).removed = [] := by decide +kernel
  refine ⟨hs, (preview_saved_eq_iff hs).1.mpr ⟨hr, by decide⟩, save_untidyDraft, ?_⟩
  exact mt (preview_saved_eq_iff save_untidyDraft).1.mp fun h => absurd h.1 (by decide)

end Subscription

end TrackerFilter
