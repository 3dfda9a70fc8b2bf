import TrackerFilter.Proofs.Catalog.Selection
import TrackerFilter.Proofs.Draft.Save

/-!
Drafts whose events, issue types and filters stand in another order. Which rule is told of may change with
the order, but not whether one is broken: each is about the members of its list, and the catalog goes by
the members of the selection. So both drafts are saved or neither, and what is kept, dropped and noted is
the same up to order.
-/
namespace TrackerFilter

namespace Note

theorem onRemoval_perm {removed others : List String} (h : removed.Perm others) :
    onRemoval removed = onRemoval others := by
  induction h with
  | nil => rfl
  | cons key _ _ => rfl
  | swap key other rest => rfl
  | trans _ _ ih ih' => exact ih.trans ih'

theorem onSecurity_perm {f g : Subscription} (h : f.fields.Perm g.fields) (fields : List CatalogField)
    (b : Bool) : onSecurity f fields b = onSecurity g fields b := by
  rw [onSecurity, onSecurity, Subscription.restrictsSecurity, Subscription.restrictsSecurity, h.any_eq]

end Note

namespace Gate

variable {filters others : List FieldFilter}

theorem kept_perm (fields : List CatalogField) (h : filters.Perm others) :
    (screened fields filters).kept.Perm (screened fields others).kept :=
  (h.filter _).map _

theorem removed_perm (fields : List CatalogField) (h : filters.Perm others) :
    (screened fields filters).removed.Perm (screened fields others).removed :=
  (h.filter _).map _

end Gate

namespace Subscription

structure Reordered (f g : Subscription) : Prop where
  projects : g.projects = f.projects
  events : f.events.Perm g.events
  issueTypes : f.issueTypes.Perm g.issueTypes
  fields : f.fields.Perm g.fields

namespace Reordered

section
variable {m : Option Metadata} {f g : Subscription} {b : Bool} {a : Acceptance}

theorem symm (h : Reordered f g) : Reordered g f :=
  ⟨h.projects.symm, h.events.symm, h.issueTypes.symm, h.fields.symm⟩

theorem catalog_eq (h : Reordered f g) (m : Option Metadata) : g.catalog m = f.catalog m := by
  rw [catalog, catalog, h.projects]
  exact catalog_congr fun _ => h.issueTypes.symm.mem_iff

theorem complete (h : Reordered f g) (hc : f.Complete m b) : g.Complete m b where
  project := by
    rw [projectKey, h.projects]
    exact hc.project
  events := fun he => hc.events (he ▸ h.events).eq_nil
  known := fun e he => hc.known e (h.events.mem_iff.mpr he)
  issueTypes := fun hi => hc.issueTypes (hi ▸ h.issueTypes).eq_nil
  filters := by
    intro v hv field hfield
    rw [h.catalog_eq] at hfield
    exact hc.filters v (h.fields.mem_iff.mpr hv) field hfield

theorem compatible (h : Reordered f g) (hc : Compatible (f.catalog m) f.fields f.issueTypes) :
    Compatible (g.catalog m) g.fields g.issueTypes := by
  rw [h.catalog_eq]
  exact hc.mono (fun _ hv => h.fields.mem_iff.mpr hv) fun _ hid => h.issueTypes.mem_iff.mpr hid

theorem saved (h : Reordered f g) (hs : f.save m b = .ok a) : g.save m b = .ok (g.accepted m b) := by
  obtain ⟨hc, hcomp, _⟩ := save_eq_ok.mp hs
  exact save_eq_ok.mpr ⟨h.complete hc, h.compatible hcomp, rfl⟩

theorem accepted_subscription (h : Reordered f g) (m : Option Metadata) (b : Bool) :
    Reordered (f.accepted m b).subscription (g.accepted m b).subscription where
  projects := h.projects
  events := h.events
  issueTypes := h.issueTypes
  fields := by
    rw [accepted, accepted, h.catalog_eq]
    exact Gate.kept_perm _ h.fields

theorem accepted_removed (h : Reordered f g) (m : Option Metadata) (b : Bool) :
    (f.accepted m b).removed.Perm (g.accepted m b).removed := by
  rw [accepted, accepted, h.catalog_eq]
  exact Gate.removed_perm _ h.fields

theorem accepted_notes (h : Reordered f g) (m : Option Metadata) (b : Bool) :
    (f.accepted m b).notes = (g.accepted m b).notes := by
  have hr := Note.onRemoval_perm (h.accepted_removed m b)
  have hs := Note.onSecurity_perm (h.accepted_subscription m b).fields (f.catalog m) b
  rw [accepted, accepted, h.catalog_eq] at hr hs ⊢
  exact congrArg₂ (· ++ ·) hr hs

end

end Reordered

/-- Whether a draft can be saved does not depend on the order of its events, issue types and filters. What
is saved of a reordered draft is what is saved of the draft in another order, with the same keys dropped
and the same notes. -/
theorem save_reordered {m : Option Metadata} {f g : Subscription} {b : Bool} (h : Reordered f g) :
    ((∃ a, f.save m b = .ok a) ↔ ∃ a, g.save m b = .ok a) ∧
      ∀ a a', f.save m b = .ok a → g.save m b = .ok a' →
        Reordered a.subscription a'.subscription ∧ a.removed.Perm a'.removed ∧ a.notes = a'.notes := by
  constructor
  · constructor
    · intro hs
      obtain ⟨a, hs⟩ := hs
      exact ⟨_, h.saved hs⟩
    · intro hs
      obtain ⟨a, hs⟩ := hs
      exact ⟨_, h.symm.saved hs⟩
  · intro a a' hs hs'
    obtain ⟨_, _, rfl⟩ := save_eq_ok.mp hs
    obtain ⟨_, _, rfl⟩ := save_eq_ok.mp hs'
    exact ⟨h.accepted_subscription m b, h.accepted_removed m b, h.accepted_notes m b⟩

end Subscription

def turnedDraft : Subscription :=
  { untidyDraft with issueTypes := ["2", "1"], fields := untidyDraft.fields.reverse }

namespace Subscription

theorem turnedDraft_saved :
    Reordered untidyDraft turnedDraft ∧ untidyDraft.save (some prioritized) true = .ok tidied ∧
      ∃ a, turnedDraft.save (some prioritized) true = .ok a ∧
        Reordered tidied.subscription a.subscription ∧ tidied.removed.Perm a.removed ∧
        tidied.notes = a.notes := by
  have h : Reordered untidyDraft turnedDraft := ⟨rfl, .refl _, by decide, by decide⟩
  obtain ⟨hsaved, hsame⟩ := save_reordered (m := some prioritized) (b := true) h
  obtain ⟨a, ha⟩ := hsaved.mp ⟨tidied, save_untidyDraft⟩
  exact ⟨h, save_untidyDraft, a, ha, hsame tidied a save_untidyDraft ha⟩

end Subscription

end TrackerFilter
