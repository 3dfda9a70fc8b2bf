import TrackerFilter.Draft
import TrackerFilter.Proofs.Gate.Verdict
import Mathlib.Data.List.Basic

/-!
Saving a draft. It is refused with the first rule that is broken, and accepted where none is; the rule on
conflicts says what the check of the unchanged selection says.
-/
namespace TrackerFilter

namespace Subscription

def unknownProjectFaults (m : Option Metadata) (f : Subscription) : List Refusal :=
  match f.projectKey with
  | none => []
  | some key =>
    refusedIf (key ≠ "" ∧ ∀ d ∈ m, ∀ p ∈ d.projects, p.key ≠ key) (.unknownProject key)

def faults (m : Option Metadata) (f : Subscription) (securityLevelEmpty : Bool) : List Refusal :=
  unknownProjectFaults m f ++ Gate.faults ⟨securityLevelEmpty⟩ (f.catalog m) f

def accepted (m : Option Metadata) (f : Subscription) (securityLevelEmpty : Bool) : Acceptance :=
  Gate.accept ⟨securityLevelEmpty⟩ (f.catalog m) f (Gate.screened (f.catalog m) f.fields)

structure Complete (m : Option Metadata) (f : Subscription) (securityLevelEmpty : Bool) : Prop where
  project : ∃ key, f.projectKey = some key ∧ key ≠ "" ∧ hasProject m key = true
  events : f.events ≠ []
  known : ∀ e ∈ f.events, Event.isKnown e = true
  issueTypes : f.issueTypes ≠ []
  filters : ∀ v ∈ f.fields, ∀ field, findField (f.catalog m) v.key = some field →
    v.faults ⟨securityLevelEmpty⟩ field = []

section
variable {m : Option Metadata} {f : Subscription} {b : Bool} {a : Acceptance} {c : Conflict}

theorem take_projects {key : String} (h : f.projectKey = some key) : f.projects.take 1 = [key] := by
  cases hp : f.projects with
  | nil => simp [projectKey, hp] at h
  | cons k rest => simpa [projectKey, hp] using h

theorem hasProject_eq_true {key : String} :
    hasProject m key = true ↔ ∃ d, m = some d ∧ ∃ p ∈ d.projects, p.key = key := by
  cases m with
  | none => simp [hasProject]
  | some d => simp [hasProject, Metadata.project?]

theorem hasProject_eq_false {key : String} :
    hasProject m key = false ↔ ∀ d ∈ m, ∀ p ∈ d.projects, p.key ≠ key := by
  rw [← Bool.not_eq_true, hasProject_eq_true]
  simp

theorem checkProjectKnown_eq (m : Option Metadata) (f : Subscription) :
    f.checkProjectKnown m = verdict (unknownProjectFaults m f) () := by
  rw [checkProjectKnown, unknownProjectFaults]
  cases f.projectKey with
  | none => rfl
  | some key =>
    simp only [verdict_refusedIf, ← hasProject_eq_false]
    by_cases hk : key = ""
    · simp [hk]
    · cases hasProject m key <;> simp [hk]

theorem save_eq (m : Option Metadata) (f : Subscription) (b : Bool) :
    f.save m b =
      verdict (f.faults m b ++ Gate.conflictFaults (f.catalog m) (f.offeredIssueTypes m) f.issueTypes
        f.fields) (f.accepted m b) := by
  rw [save, checkProjectKnown_eq, Gate.evaluate_eq, faults, List.append_assoc]
  exact verdict_bind rfl

theorem project_faults_eq_nil :
    unknownProjectFaults m f = [] ∧ Gate.projectFaults f = [] ↔
      ∃ key, f.projectKey = some key ∧ key ≠ "" ∧ hasProject m key = true := by
  rw [unknownProjectFaults, Gate.projectFaults, refusedIf_eq_nil]
  cases f.projectKey with
  | none => simp
  | some key =>
    simp only [refusedIf_eq_nil, ← hasProject_eq_false, reduceCtorEq, false_or, Option.some.injEq,
      exists_eq_left', not_and, Bool.not_eq_false]
    exact ⟨fun h => ⟨h.2, h.1 h.2⟩, fun h => ⟨fun _ => h.2, h.1⟩⟩

theorem faults_eq_nil : f.faults m b = [] ↔ f.Complete m b := by
  have hp : unknownProjectFaults m f = [] ∧ Gate.projectFaults f = [] ↔ _ := project_faults_eq_nil
  have he : Gate.eventFaults f.events = [] ↔
      f.events ≠ [] ∧ ∀ e ∈ f.events, Event.isKnown e = true := by
    simp [Gate.eventFaults, refusedIf_eq_nil]
  have hf : Gate.filterFaults ⟨b⟩ (f.catalog m) f.fields = [] ↔ ∀ v ∈ f.fields, ∀ field,
      findField (f.catalog m) v.key = some field → v.faults ⟨b⟩ field = [] := by
    rw [Gate.filterFaults, List.flatMap_eq_nil_iff]
    refine forall₂_congr fun v _ => ?_
    cases findField (f.catalog m) v.key <;> simp
  rw [faults, Gate.faults, Gate.issueTypeFaults]
  simp only [List.append_eq_nil_iff, refusedIf_eq_nil]
  constructor
  · intro h
    obtain ⟨hu, hpr, hev, hit, hfi⟩ := h
    exact ⟨hp.mp ⟨hu, hpr⟩, (he.mp hev).1, (he.mp hev).2, hit, hf.mp hfi⟩
  · intro h
    obtain ⟨hu, hpr⟩ := hp.mpr h.project
    exact ⟨hu, hpr, he.mpr ⟨h.events, h.known⟩, h.issueTypes, hf.mpr h.filters⟩

theorem fieldConflict_notMem_faults : .fieldConflict c ∉ f.faults m b := by
  have hu : .fieldConflict c ∉ unknownProjectFaults m f := by
    rw [unknownProjectFaults]
    cases f.projectKey <;> simp [mem_refusedIf]
  have hf : .fieldConflict c ∉ Gate.filterFaults ⟨b⟩ (f.catalog m) f.fields := by
    simp only [Gate.filterFaults, List.mem_flatMap, not_exists, not_and]
    intro v _
    cases findField (f.catalog m) v.key <;>
      simp [FieldFilter.faults, FieldFilter.inclusionFaults, mem_refusedIf]
  simp [faults, Gate.faults, Gate.projectFaults, Gate.eventFaults, Gate.issueTypeFaults,
    mem_refusedIf, hu, hf]

theorem save_eq_ok :
    f.save m b = .ok a ↔ f.Complete m b ∧ Compatible (f.catalog m) f.fields f.issueTypes ∧
      a = f.accepted m b := by
  rw [save_eq, verdict_eq_ok, List.append_eq_nil_iff, faults_eq_nil, Gate.conflictFaults,
    List.map_eq_nil_iff, Option.toList_eq_nil_iff, Conflict.first?_eq_none, and_assoc, eq_comm (a := a)]

theorem mem_saved (hs : f.save m b = .ok a) {v : FieldFilter} :
    v ∈ a.subscription.fields ↔ ∃ u ∈ f.fields, ∃ field,
      findField (f.catalog m) u.key = some field ∧ u.normalized = v := by
  obtain ⟨_, _, rfl⟩ := save_eq_ok.mp hs
  simp [accepted, Gate.accept, Gate.screened, and_assoc, Option.isSome_iff_exists]

theorem save_eq_fieldConflict :
    f.save m b = .error (.fieldConflict c) ↔ f.Complete m b ∧
      Conflict.first? (f.catalog m) (f.offeredIssueTypes m) f.issueTypes f.fields = some c := by
  rw [save_eq, verdict_eq_error, ← faults_eq_nil]
  cases h : f.faults m b with
  | nil =>
    cases hc : Conflict.first? (f.catalog m) (f.offeredIssueTypes m) f.issueTypes f.fields <;>
      simp [Gate.conflictFaults, hc]
  | cons r rest =>
    have hr : r ≠ .fieldConflict c := by
      intro hr
      have hn : .fieldConflict c ∉ f.faults m b := fieldConflict_notMem_faults
      exact hn (by simp [h, hr])
    simp [hr]

theorem exists_fieldConflict :
    (∃ c, f.save m b = .error (.fieldConflict c)) ↔
      f.Complete m b ∧ ¬ Compatible (f.catalog m) f.fields f.issueTypes := by
  simp only [save_eq_fieldConflict, exists_and_left]
  rw [← Option.isSome_iff_exists, ← Option.ne_none_iff_isSome, Ne, Conflict.first?_eq_none]

/-- An unchanged selection is checked as a whole, for the reason that the gate refuses it for. -/
theorem objection_self (m : Option Metadata) (f : Subscription) :
    f.objection m f.issueTypes =
      (Conflict.first? (f.catalog m) (f.offeredIssueTypes m) f.issueTypes f.fields).map
        Conflict.message := by
  simp [objection]

end

end Subscription

def prioritized : Metadata where
  projects := [⟨"KT", [⟨"1", "Bug", false, fields⟩, ⟨"2", "Task", false, fields⟩]⟩]
  workflows := []
where
  fields : List (String × Descriptor) := [
    ("epic", ⟨none, "Epic Link", false, ⟨"any", some CustomType.epicLink, none, none⟩, none⟩),
    ("priority", ⟨none, "Priority", false, ⟨SchemaType.priority, none, none, none⟩,
      some [⟨"1", some "High", none⟩]⟩)]

def untidyDraft : Subscription :=
  ⟨["event_created"], ["KT"], ["1", "2"], [⟨"priority", .includeAny, ["1", "1"]⟩,
    ⟨"epic", .empty, ["KT-1"]⟩, ⟨"gone", .includeAny, ["x"]⟩]⟩

def tidied : Acceptance where
  subscription :=
    { untidyDraft with fields := [⟨"priority", .includeAny, ["1"]⟩, ⟨"epic", .empty, []⟩] }
  notes := [Note.fieldRemoved, Note.securityLevel]
  removed := ["gone"]

theorem save_untidyDraft : untidyDraft.save (some prioritized) true = .ok tidied := by
  decide +kernel

end TrackerFilter
