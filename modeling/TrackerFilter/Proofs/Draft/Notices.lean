import TrackerFilter.Proofs.Draft.Security

/-!
What the author of a draft is told when it is saved. Every rule has a code and a text, and the first rule
that is broken gives both; where none is, the draft is saved without the filters on fields that are gone
and without idle values.
-/
namespace TrackerFilter

structure Notice where
  code : String
  text : String
  deriving DecidableEq

def noticeIf (p : Prop) [Decidable p] (code text : String) : List Notice := if p then [⟨code, text⟩] else []

def Refusal.notice (r : Refusal) : Notice := ⟨r.code, r.text⟩

theorem map_refusedIf {p q : Prop} [Decidable p] [Decidable q] {r : Refusal} {code text : String}
    (h : p ↔ q) (hcode : r.code = code) (htext : r.text = text) :
    (refusedIf p r).map Refusal.notice = noticeIf q code text := by
  by_cases hp : p
  · simp [refusedIf, noticeIf, Refusal.notice, hp, h.mp hp, hcode, htext]
  · simp [refusedIf, noticeIf, hp, mt h.mpr hp]

def FieldFilter.notices (b : Bool) (v : FieldFilter) : Option CatalogField → List Notice
  | none => []
  | some field =>
    noticeIf (v.inclusion = .includeAll ∧ field.schema.type ≠ "array") "INCLUSION_NOT_ALLOWED"
        ("Inclusion \"include_all\" is not allowed for field " ++ field.name ++
          ", which holds a single value.") ++
      noticeIf (v.inclusion = .excludeAny ∧ field.schema.type = "securitylevel" ∧ b = true)
        "SECURITY_LEVEL_EXCLUDE_ANY"
        "Security level inclusion cannot be \"Exclude Any\". Note that the default value is now \"Empty\"." ++
      noticeIf (v.inclusion ≠ .empty ∧ v.values = []) "MISSING_FILTER_VALUES"
        ("Please provide at least one value for filter field " ++ field.name ++ ".")

theorem FieldFilter.map_faults (b : Bool) (field : CatalogField) (v : FieldFilter) :
    (v.faults ⟨b⟩ field).map Refusal.notice = v.notices b (some field) := by
  rw [faults, inclusionFaults, List.map_append, List.map_append, map_refusedIf .rfl rfl rfl,
    map_refusedIf .rfl rfl rfl, map_refusedIf .rfl rfl rfl]
  rfl

namespace Subscription

/-- What is told of the project, the events, the issue types and each of the filters, in this order. -/
def notices (m : Option Metadata) (f : Subscription) (b : Bool) : List Notice :=
  f.projectKey.elim [] (fun key =>
      noticeIf (key ≠ "" ∧ ∀ d ∈ m, ∀ p ∈ d.projects, p.key ≠ key) "UNKNOWN_PROJECT"
        ("Failed to get project " ++ key ++ ".")) ++
    noticeIf (f.projectKey = none ∨ f.projectKey = some "") "MISSING_PROJECT"
      "Please provide a project identifier." ++
    noticeIf (f.events = []) "MISSING_EVENTS" "Please provide at least one event type." ++
    noticeIf (∃ e ∈ f.events, Event.isKnown e = false) "UNKNOWN_EVENT"
      ("Unknown event type(s): " ++ ", ".intercalate (f.events.filter fun e => !Event.isKnown e)) ++
    noticeIf (f.issueTypes = []) "MISSING_ISSUE_TYPES" "Please provide at least one issue type." ++
    f.fields.flatMap fun v => v.notices b (findField (f.catalog m) v.key)

def lasting (m : Option Metadata) (f : Subscription) : List FieldFilter :=
  (f.fields.filter fun v => (findField (f.catalog m) v.key).isSome).map fun v =>
    { v with values := if v.inclusion = .empty then [] else distinct v.values }

def gone (m : Option Metadata) (f : Subscription) : List String :=
  (f.fields.filter fun v => (findField (f.catalog m) v.key).isNone).map FieldFilter.key

def pruned (m : Option Metadata) (f : Subscription) (b : Bool) : Acceptance where
  subscription := { f with fields := f.lasting m }
  notes :=
    (if f.gone m = [] then [] else
      ["A field in this subscription has been removed from Jira, so the subscription is invalid. When this " ++
        "form is submitted, the configured field will be removed from the subscription to make the " ++
        "subscription valid again."]) ++
    if b = true ∧ ∀ v ∈ f.lasting m, v.key ≠ "security" ∧
        ∀ field ∈ findField (f.catalog m) v.key, field.schema.type ≠ "securitylevel" then
      ["Note that since you have not selected a security level filter, the subscription will only allow " ++
        "issues that have no security level assigned."]
    else []
  removed := f.gone m

theorem map_filterFaults (m : Option Metadata) (f : Subscription) (b : Bool) :
    (Gate.filterFaults ⟨b⟩ (f.catalog m) f.fields).map Refusal.notice =
      f.fields.flatMap fun v => v.notices b (findField (f.catalog m) v.key) := by
  rw [Gate.filterFaults, List.map_flatMap]
  refine List.flatMap_congr fun v _ => ?_
  cases findField (f.catalog m) v.key with
  | none => rfl
  | some field => exact v.map_faults b field

theorem map_unknownProjectFaults (m : Option Metadata) (f : Subscription) :
    (unknownProjectFaults m f).map Refusal.notice = f.projectKey.elim [] fun key =>
      noticeIf (key ≠ "" ∧ ∀ d ∈ m, ∀ p ∈ d.projects, p.key ≠ key) "UNKNOWN_PROJECT"
        ("Failed to get project " ++ key ++ ".") := by
  rw [unknownProjectFaults]
  cases f.projectKey with
  | none => rfl
  | some key => exact map_refusedIf .rfl rfl rfl

theorem map_eventFaults (events : List String) :
    (Gate.eventFaults events).map Refusal.notice =
      noticeIf (events = []) "MISSING_EVENTS" "Please provide at least one event type." ++
        noticeIf (∃ e ∈ events, Event.isKnown e = false) "UNKNOWN_EVENT"
          ("Unknown event type(s): " ++ ", ".intercalate (events.filter fun e => !Event.isKnown e)) := by
  rw [Gate.eventFaults, List.map_append]
  exact congrArg₂ _ (map_refusedIf .rfl rfl rfl) (map_refusedIf .rfl rfl rfl)

theorem map_faults (m : Option Metadata) (f : Subscription) (b : Bool) :
    (f.faults m b).map Refusal.notice = f.notices m b := by
  have hproject : (Gate.projectFaults f).map Refusal.notice =
      noticeIf (f.projectKey = none ∨ f.projectKey = some "") "MISSING_PROJECT"
        "Please provide a project identifier." := map_refusedIf .rfl rfl rfl
  have hissueTypes : (Gate.issueTypeFaults f.issueTypes).map Refusal.notice =
      noticeIf (f.issueTypes = []) "MISSING_ISSUE_TYPES" "Please provide at least one issue type." :=
    map_refusedIf .rfl rfl rfl
  simp only [faults, Gate.faults, List.map_append, map_unknownProjectFaults, hproject, map_eventFaults,
    hissueTypes, map_filterFaults, notices, List.append_assoc]

theorem onRemoval_eq (removed : List String) :
    Note.onRemoval removed = if removed = [] then [] else
      ["A field in this subscription has been removed from Jira, so the subscription is invalid. When this " ++
        "form is submitted, the configured field will be removed from the subscription to make the " ++
        "subscription valid again."] := by
  cases removed with
  | nil => rfl
  | cons key rest => exact (if_neg (List.cons_ne_nil key rest)).symm

theorem onSecurity_eq (fields : List CatalogField) (f : Subscription) (b : Bool) :
    Note.onSecurity f fields b =
      if b = true ∧ ∀ v ∈ f.fields, v.key ≠ "security" ∧
          ∀ field ∈ findField fields v.key, field.schema.type ≠ "securitylevel" then
        ["Note that since you have not selected a security level filter, the subscription will only allow " ++
          "issues that have no security level assigned."]
      else [] := by
  have hnone : f.restrictsSecurity fields = false ↔ ∀ v ∈ f.fields, v.key ≠ "security" ∧
      ∀ field ∈ findField fields v.key, field.schema.type ≠ "securitylevel" := by
    simp only [Subscription.restrictsSecurity, List.any_eq_false, FieldFilter.restrictsSecurity_iff,
      not_or, not_exists, not_and]
    rfl
  cases b with
  | false => exact (if_neg fun h => Bool.false_ne_true h.1).symm
  | true =>
    cases hr : f.restrictsSecurity fields with
    | true =>
      rw [if_neg fun h => Bool.false_ne_true ((hnone.mpr h.2).symm.trans hr), Note.onSecurity, hr]
      rfl
    | false =>
      rw [if_pos ⟨rfl, hnone.mp hr⟩, Note.onSecurity, hr]
      rfl

theorem accepted_eq (m : Option Metadata) (f : Subscription) (b : Bool) :
    f.accepted m b = f.pruned m b := by
  rw [accepted, Gate.accept, onRemoval_eq, onSecurity_eq]
  rfl

/-- Saving tells of the first rule that is broken: the project, the events, the issue types, each filter
in order, and last the conflict that the check of the unchanged selection tells of. A draft that breaks
none is saved. -/
theorem save_refuses_first_broken (m : Option Metadata) (f : Subscription) (b : Bool) :
    (f.save m b).mapError (fun r => ⟨r.code, r.text⟩) =
      match f.notices m b ++ (f.objection m f.issueTypes).toList.map (Notice.mk "FIELD_CONFLICT") with
      | [] => .ok (f.pruned m b)
      | notice :: _ => .error notice := by
  have hconflict : (Gate.conflictFaults (f.catalog m) (f.offeredIssueTypes m) f.issueTypes f.fields).map
      Refusal.notice = (f.objection m f.issueTypes).toList.map (Notice.mk "FIELD_CONFLICT") := by
    rw [objection_self, Gate.conflictFaults]
    cases Conflict.first? (f.catalog m) (f.offeredIssueTypes m) f.issueTypes f.fields <;> rfl
  have hsave : (f.save m b).mapError Refusal.notice = verdict
      (f.notices m b ++ (f.objection m f.issueTypes).toList.map (Notice.mk "FIELD_CONFLICT"))
      (f.pruned m b) := by
    rw [save_eq, mapError_verdict, List.map_append, map_faults, hconflict, accepted_eq]
  refine hsave.trans ?_
  cases f.notices m b ++ (f.objection m f.issueTypes).toList.map (Notice.mk "FIELD_CONFLICT") <;> rfl

end Subscription

def brokenDraft : Subscription :=
  ⟨["event_lost", "event_created", "gone"], ["KT"], [], [⟨"priority", .includeAll, []⟩]⟩

theorem save_brokenDraft :
    (brokenDraft.notices (some prioritized) true).map Notice.code =
        ["UNKNOWN_EVENT", "MISSING_ISSUE_TYPES", "INCLUSION_NOT_ALLOWED", "MISSING_FILTER_VALUES"] ∧
      (brokenDraft.save (some prioritized) true).mapError (fun r => Notice.mk r.code r.text) =
        .error ⟨"UNKNOWN_EVENT", "Unknown event type(s): event_lost, gone"⟩ ∧
      (brokenDraft.save none true).mapError (fun r => Notice.mk r.code r.text) =
        .error ⟨"UNKNOWN_PROJECT", "Failed to get project KT."⟩ ∧
      (untidyDraft.save (some prioritized) true).mapError (fun r => Notice.mk r.code r.text) =
        .ok tidied := by
  rw [Subscription.save_refuses_first_broken, Subscription.save_refuses_first_broken,
    Subscription.save_refuses_first_broken]
  decide +kernel

end TrackerFilter
