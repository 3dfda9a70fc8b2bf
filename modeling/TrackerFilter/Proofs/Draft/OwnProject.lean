import TrackerFilter.Proofs.Draft.Save

/-!
What the answers about a draft depend on. Of the metadata these are the issue types of the first project of
the draft, without subtasks, and the workflows; of the projects of the draft the first. Two metadata and
two drafts that agree there get the same answers, and nothing changes where all else is left out.
-/
namespace TrackerFilter

namespace Metadata

/-- Both know the same about a project, or both do not know it, and the workflows are the same. -/
structure AgreeOn (key : String) (d e : Metadata) : Prop where
  types : (d.project? key).map Project.standardTypes = (e.project? key).map Project.standardTypes
  workflows : d.workflows = e.workflows

def restricted (d : Metadata) (key : String) : Metadata where
  projects := (d.project? key).toList.map fun p => { p with issueTypes := p.standardTypes }
  workflows := d.workflows

theorem project?_restricted (d : Metadata) (key : String) :
    (d.restricted key).project? key =
      (d.project? key).map fun p => { p with issueTypes := p.standardTypes } := by
  cases hp : d.project? key with
  | none =>
    rw [project?, restricted, hp]
    rfl
  | some p =>
    have hk : p.key = key := by simpa using List.find?_some hp
    rw [project?, restricted, hp]
    simp [hk]

theorem agreeOn_restricted (d : Metadata) (key : String) : AgreeOn key d (d.restricted key) where
  types := by
    rw [project?_restricted]
    cases d.project? key <;> simp [Project.standardTypes]
  workflows := rfl

theorem issueTypesOf_some (d : Metadata) (key : String) :
    issueTypesOf (some d) (some key) =
      if key = "" then [] else ((d.project? key).map Project.standardTypes).getD [] := by
  simp only [issueTypesOf]
  cases d.project? key <;> rfl

section
variable {d e : Metadata} {key : String}

theorem AgreeOn.issueTypesOf_eq (h : AgreeOn key d e) :
    issueTypesOf (some e) (some key) = issueTypesOf (some d) (some key) := by
  rw [issueTypesOf_some, issueTypesOf_some, h.types]

theorem AgreeOn.hasProject_eq (h : AgreeOn key d e) :
    Subscription.hasProject (some e) key = Subscription.hasProject (some d) key := by
  have hs := congrArg Option.isSome h.types
  simpa [Subscription.hasProject] using hs.symm

theorem AgreeOn.catalog_eq (h : AgreeOn key d e) (selection : List String) :
    catalog (some e) [key] selection = catalog (some d) [key] selection := by
  have hgroups : groupedFields (some e) [key] = groupedFields (some d) [key] := by
    simp only [groupedFields, occurrences, h.issueTypesOf_eq]
  have hstatus : statusField (some e) selection = statusField (some d) selection := by
    simp only [statusField, Metadata.reachableStatuses, h.workflows]
  simp [catalog, hgroups, hstatus]

end

end Metadata

def Acceptance.withProjects (projects : List String) (a : Acceptance) : Acceptance :=
  { a with subscription := { a.subscription with projects := projects } }

namespace Subscription

def withProjects (f : Subscription) (projects : List String) : Subscription :=
  { f with projects := projects }

structure SameAnswers (m : Option Metadata) (f : Subscription) (n : Option Metadata) (g : Subscription) :
    Prop where
  issueTypes : g.offeredIssueTypes n = f.offeredIssueTypes m
  catalog : g.catalog n = f.catalog m
  stale : g.staleKeys (g.catalog n) = f.staleKeys (f.catalog m)
  objection : ∀ selection, g.objection n selection = f.objection m selection
  preview : ∀ b, g.preview n b = f.preview m b
  save : ∀ b, g.save n b = (f.save m b).map (Acceptance.withProjects g.projects)

end Subscription

section
variable {d e : Metadata} {f : Subscription} {key : String} {projects : List String}

theorem Gate.evaluate_withProjects (policy : Policy) (fields : List CatalogField)
    (issueTypes : List IssueType) (h : (f.withProjects projects).projectKey = f.projectKey) :
    evaluate policy fields issueTypes (f.withProjects projects) =
      (evaluate policy fields issueTypes f).map (Acceptance.withProjects projects) := by
  have hp : projectFaults (f.withProjects projects) = projectFaults f := by
    rw [projectFaults, h]
    rfl
  rw [evaluate_eq, evaluate_eq, verdict_map, faults, faults, hp]
  rfl

namespace Subscription

theorem sameAnswers_of_agreeOn (hd : d.AgreeOn key e) (hf : f.projectKey = some key)
    (hp : (f.withProjects projects).projectKey = some key) :
    SameAnswers (some d) f (some e) (f.withProjects projects) := by
  have htypes : (f.withProjects projects).offeredIssueTypes (some e) = f.offeredIssueTypes (some d) := by
    rw [offeredIssueTypes, offeredIssueTypes, hf, hp, hd.issueTypesOf_eq]
  have hcat : (f.withProjects projects).catalog (some e) = f.catalog (some d) := by
    rw [catalog, catalog, take_projects hf, take_projects hp]
    exact hd.catalog_eq f.issueTypes
  have hknown : (f.withProjects projects).checkProjectKnown (some e) = f.checkProjectKnown (some d) := by
    simp only [checkProjectKnown, hf, hp, hd.hasProject_eq]
  refine ⟨htypes, hcat, ?_, fun selection => ?_, fun b => ?_, fun b => ?_⟩
  · rw [hcat]
    rfl
  · simp only [objection, htypes, hcat]
    rfl
  · -- the query names the first project and no other
    have hq : Query.render (f.withProjects projects) = Query.render f := by
      have hclause : Query.projectClause (f.withProjects projects) = Query.projectClause f := by
        rw [Query.projectClause, Query.projectClause, hf, hp]
      rw [Query.render, hclause]
      rfl
    rw [preview, preview, hcat, Preview.ofSubscription, hq]
    rfl
  · rw [save, save, hknown, hcat, htypes, Gate.evaluate_withProjects _ _ _ (hp.trans hf.symm)]
    cases f.checkProjectKnown (some d) <;> rfl

/-- Metadata that agree on the first project of a draft give the same answers about it, whatever its other
projects are. So all answers are those about this project alone and without its subtasks. -/
theorem own_project_decides :
    (∀ d e : Metadata, ∀ key, d.AgreeOn key e → ∀ f : Subscription, ∀ projects,
        f.projectKey = some key → (f.withProjects projects).projectKey = some key →
        SameAnswers (some d) f (some e) (f.withProjects projects)) ∧
      ∀ d : Metadata, ∀ key, ∀ f : Subscription, f.projectKey = some key →
        SameAnswers (some d) f (some (d.restricted key)) (f.withProjects [key]) :=
  ⟨fun _ _ _ hd _ _ hf hp => sameAnswers_of_agreeOn hd hf hp,
    fun d key _ hf => sameAnswers_of_agreeOn (d.agreeOn_restricted key) hf rfl⟩

end Subscription

end

def crowded : Metadata where
  projects := [⟨"XX", [⟨"1", "Bug", false, []⟩]⟩,
    ⟨"KT", ⟨"9", "Sub-task", true, [extra]⟩ :: prioritized.projects.flatMap Project.issueTypes⟩,
    ⟨"KT", [⟨"1", "Bug", false, [extra]⟩]⟩]
  workflows := []
where
  extra : String × Descriptor :=
    ("gone", ⟨none, "Severity", false, ⟨SchemaType.option, none, none, none⟩, some [⟨"x", none, none⟩]⟩)

namespace Subscription

theorem untidyDraft_crowded :
    prioritized.AgreeOn "KT" crowded ∧
      (untidyDraft.withProjects ["KT", "XX"]).save (some crowded) true =
        .ok (tidied.withProjects ["KT", "XX"]) ∧
      untidyDraft.catalog (some (crowded.restricted "KT")) = untidyDraft.catalog (some crowded) := by
  have hd : prioritized.AgreeOn "KT" crowded := ⟨by decide, rfl⟩
  have h := own_project_decides.1 _ _ _ hd untidyDraft ["KT", "XX"] rfl rfl
  refine ⟨hd, ?_, (own_project_decides.2 crowded "KT" untidyDraft rfl).catalog⟩
  rw [h.save, save_untidyDraft]
  rfl

end Subscription

end TrackerFilter
