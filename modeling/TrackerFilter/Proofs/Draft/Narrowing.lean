import TrackerFilter.Proofs.Draft.Drift

/-!
Fewer issue types. Their catalog has the same fields of the tracker, and a status field only where the
wider one has it, with other values. So what passes the checks under the wider selection passes them under
the narrower, and no filter is lost but those on a status field that is no longer there.
-/
namespace TrackerFilter

namespace CatalogField

def withValues (f : CatalogField) (values : List FieldOption) : CatalogField := { f with values := values }

@[simp] theorem key_withValues (f : CatalogField) (values : List FieldOption) :
    (f.withValues values).key = f.key := rfl

@[simp] theorem carries_withValues (f : CatalogField) (values : List FieldOption) (id : String) :
    (f.withValues values).carries id = f.carries id := rfl

end CatalogField

theorem FieldFilter.faults_withValues {policy : Policy} {field : CatalogField} {v : FieldFilter}
    (values : List FieldOption) :
    v.faults policy (field.withValues values) = [] ↔ v.faults policy field = [] := by
  simp only [faults, inclusionFaults, List.append_eq_nil_iff, refusedIf_eq_nil]
  exact Iff.rfl

structure Narrower (narrow wide : List String) : Prop where
  nonempty : narrow ≠ []
  subset : ∀ id ∈ narrow, id ∈ wide

section
variable {m : Option Metadata} {projects narrow wide : List String} {filters : List FieldFilter}
  {f s t : CatalogField} {key : String}

theorem Narrower.distinct (h : Narrower narrow wide) : Narrower (distinct narrow) wide where
  nonempty := distinctBy_eq_nil.not.mpr h.nonempty
  subset := fun id hid => h.subset id ((mem_distinct narrow id).mp hid)

theorem Metadata.ReachesStatus.mono {d : Metadata} (h : Narrower narrow wide)
    (hr : d.ReachesStatus narrow) : d.ReachesStatus wide := by
  obtain ⟨w, hw, hsel, hst⟩ := hr
  have hid : w.id ∈ narrow := by simpa [Workflow.selected, h.nonempty] using hsel
  exact ⟨w, hw, by simp [Workflow.selected, h.subset w.id hid], hst⟩

theorem statusField_withValues (hs : statusField m narrow = some s) (ht : statusField m wide = some t) :
    t = s.withValues t.values := by
  obtain ⟨d, rfl, _, rfl⟩ := statusField_eq_some.mp hs
  obtain ⟨_, he, _, rfl⟩ := statusField_eq_some.mp ht
  obtain rfl := Option.some.inj he
  rfl

theorem addedStatus_widened (h : Narrower narrow wide) (hs : addedStatus m projects narrow = some s) :
    ∃ values, addedStatus m projects wide = some (s.withValues values) := by
  obtain ⟨hp, hno, hsf⟩ := addedStatus_eq_some.mp hs
  obtain ⟨d, hd, hr⟩ := statusField_isSome.mp (Option.isSome_of_eq_some hsf)
  obtain ⟨t, ht⟩ := Option.isSome_iff_exists.mp (statusField_isSome.mpr ⟨d, hd, hr.mono h⟩)
  refine ⟨t.values, addedStatus_eq_some.mpr ⟨hp, hno, ?_⟩⟩
  rw [ht, ← statusField_withValues hsf ht]

theorem mem_catalog_widened (h : Narrower narrow wide) (hf : f ∈ catalog m projects narrow) :
    ∃ values, f.withValues values ∈ catalog m projects wide := by
  rcases mem_catalog.mp hf with hg | hs
  · exact ⟨f.values, mem_catalog.mpr (.inl hg)⟩
  · obtain ⟨values, hv⟩ := addedStatus_widened h hs
    exact ⟨values, mem_catalog.mpr (.inr hv)⟩

theorem findField_widened (h : Narrower narrow wide)
    (hf : findField (catalog m projects narrow) key = some f) :
    ∃ values, findField (catalog m projects wide) key = some (f.withValues values) := by
  obtain ⟨hk, hcase⟩ := findField_catalog_eq_some.mp hf
  rcases hcase with hg | ⟨hs, hno⟩
  · exact ⟨f.values, findField_catalog_eq_some.mpr ⟨hk, .inl hg⟩⟩
  · obtain ⟨values, hv⟩ := addedStatus_widened h hs
    exact ⟨values, findField_catalog_eq_some.mpr ⟨hk, .inr ⟨hv, hno⟩⟩⟩

theorem findField_isSome_of_ne (hk : key ≠ SystemField.status) :
    (findField (catalog m projects narrow) key).isSome =
      (findField (catalog m projects wide) key).isSome := by
  have hst : ∀ selection s, addedStatus m projects selection = some s → s.key ≠ key := by
    intro selection s hs he
    exact hk (he.symm.trans (key_addedStatus hs))
  rw [Bool.eq_iff_iff, ← Option.ne_none_iff_isSome, ← Option.ne_none_iff_isSome, Ne, Ne,
    findField_eq_none, findField_eq_none]
  exact not_congr (and_congr_right fun _ => iff_of_true (hst narrow) (hst wide))

theorem compatible_narrowed (h : Narrower narrow wide)
    (hc : Compatible (catalog m projects wide) filters wide) :
    Compatible (catalog m projects narrow) filters narrow := by
  intro f hf hv id hid
  obtain ⟨values, hw⟩ := mem_catalog_widened h hf
  exact hc _ hw hv id (h.subset id hid)

end

namespace Subscription

/-- Some field goes by the key of the status field: one of the tracker, or the status field itself where
the issue types reach a status. -/
def OffersStatus (m : Option Metadata) (f : Subscription) : Prop :=
  (∃ g ∈ offeredFields m (f.projects.take 1), g.key = SystemField.status) ∨ ReachesStatus m f

section
variable {m : Option Metadata} {f : Subscription} {b : Bool} {a : Acceptance} {selection : List String}

theorem findField_status_isSome (h : f.Complete m b) :
    (findField (f.catalog m) SystemField.status).isSome = true ↔ OffersStatus m f := by
  by_cases hno : ∀ o ∈ offeredFields m (f.projects.take 1), o.key ≠ SystemField.status
  · rw [← Option.ne_none_iff_isSome, Ne, findField_status_eq_none h hno, not_not]
    exact ⟨.inr, fun ho => ho.resolve_left fun ⟨g, hg, hk⟩ => hno g hg hk⟩
  · push Not at hno
    obtain ⟨g, hg, hk⟩ := hno
    have hf : findField (f.catalog m) SystemField.status = some g.entry := hk ▸ findField_offered hg
    exact iff_of_true (Option.isSome_of_eq_some hf) (.inl ⟨g, hg, hk⟩)

theorem Complete.narrowed (h : f.Complete m b) (hn : Narrower selection f.issueTypes) :
    (f.withIssueTypes selection).Complete m b where
  project := h.project
  events := h.events
  known := h.known
  issueTypes := hn.distinct.nonempty
  filters := by
    intro v hv field hfield
    obtain ⟨values, hw⟩ := findField_widened hn.distinct hfield
    exact (v.faults_withValues values).mp (h.filters v hv _ hw)

theorem kept_narrowed (h : f.Complete m b) (hn : Narrower selection f.issueTypes) :
    (OffersStatus m (f.withIssueTypes selection) →
        (Gate.screened ((f.withIssueTypes selection).catalog m) f.fields).kept =
          (Gate.screened (f.catalog m) f.fields).kept) ∧
      (¬ OffersStatus m (f.withIssueTypes selection) →
        (Gate.screened ((f.withIssueTypes selection).catalog m) f.fields).kept =
          (Gate.screened (f.catalog m) f.fields).kept.filter fun v => v.key ≠ SystemField.status) := by
  -- a complete draft has a project, without which no status field is added
  have hst := findField_status_isSome (h.narrowed hn)
  have hmono : ∀ key, (findField ((f.withIssueTypes selection).catalog m) key).isSome = true →
      (findField (f.catalog m) key).isSome = true := by
    intro key hs
    obtain ⟨field, hf⟩ := Option.isSome_iff_exists.mp hs
    obtain ⟨values, hw⟩ := findField_widened hn.distinct hf
    exact Option.isSome_of_eq_some hw
  constructor
  · intro ho
    refine congrArg (List.map FieldFilter.normalized) (List.filter_congr fun v _ => ?_)
    by_cases hk : v.key = SystemField.status
    · rw [hk, hst.mpr ho, hmono _ (hst.mpr ho)]
    · exact findField_isSome_of_ne hk
  · intro ho
    simp only [Gate.screened, List.filter_map, List.filter_filter]
    refine congrArg (List.map FieldFilter.normalized) (List.filter_congr fun v _ => ?_)
    by_cases hk : v.key = SystemField.status
    · have hf := mt hst.mp ho
      simp [hk, Bool.eq_false_iff.mpr hf, FieldFilter.normalized]
    · have he : (findField ((f.withIssueTypes selection).catalog m) v.key).isSome =
          (findField (f.catalog m) v.key).isSome := findField_isSome_of_ne hk
      simp [hk, he, FieldFilter.normalized]

/-- A draft that could be saved can be saved with fewer of its issue types, and at least one. The saved
filters are the same, but for those on the status field where none goes by its key any more. -/
theorem save_narrowed (hs : f.save m b = .ok a) (hne : selection ≠ [])
    (hsub : ∀ id ∈ selection, id ∈ f.issueTypes) :
    ∃ a', (f.withIssueTypes selection).save m b = .ok a' ∧
      (OffersStatus m (f.withIssueTypes selection) →
        a'.subscription.fields = a.subscription.fields) ∧
      (¬ OffersStatus m (f.withIssueTypes selection) →
        a'.subscription.fields =
          a.subscription.fields.filter fun v => v.key ≠ SystemField.status) := by
  have hn : Narrower selection f.issueTypes := ⟨hne, hsub⟩
  obtain ⟨hc, hcomp, rfl⟩ := save_eq_ok.mp hs
  refine ⟨(f.withIssueTypes selection).accepted m b, ?_, kept_narrowed hc hn⟩
  exact save_eq_ok.mpr ⟨hc.narrowed hn, compatible_narrowed hn.distinct hcomp, rfl⟩

end

end Subscription

def halfTracked : Metadata where
  projects := [⟨"KT", [⟨"1", "Bug", false, [epic]⟩, ⟨"2", "Task", false, [epic]⟩]⟩]
  workflows := [⟨"1", "Bug", [⟨"3", "Open"⟩]⟩, ⟨"2", "Task", []⟩]
where
  epic : String × Descriptor :=
    ("epic", ⟨none, "Epic Link", false, ⟨"any", some CustomType.epicLink, none, none⟩, none⟩)

def trackedDraft : Subscription :=
  ⟨["event_created"], ["KT"], ["1", "2"], [⟨"status", .includeAny, ["3"]⟩,
    ⟨"epic", .includeAny, ["KT-1"]⟩]⟩

namespace Subscription

theorem trackedDraft_narrowed :
    trackedDraft.save (some halfTracked) false =
        .ok (trackedDraft.accepted (some halfTracked) false) ∧
      ∃ a', (trackedDraft.withIssueTypes ["2"]).save (some halfTracked) false = .ok a' ∧
        a'.subscription.fields = [⟨"epic", .includeAny, ["KT-1"]⟩] := by
  have hs : trackedDraft.save (some halfTracked) false =
      .ok (trackedDraft.accepted (some halfTracked) false) := by decide +kernel
  have hsub : ∀ id ∈ ["2"], id ∈ trackedDraft.issueTypes := by decide
  obtain ⟨a', hs', _, hgone⟩ := save_narrowed hs (List.cons_ne_nil _ _) hsub
  refine ⟨hs, a', hs', ?_⟩
  rw [hgone]
  · decide +kernel
  · exact mt (findField_status_isSome (save_eq_ok.mp hs').1).mpr (by decide +kernel)

end Subscription

end TrackerFilter
