import TrackerFilter.Field.Basic
import TrackerFilter.Subscription
import TrackerFilter.Text.Quoted

/-!
The query that a subscription amounts to, as its author sees it: project, issue types and one clause
for each filter, joined with AND. The rule on security levels is no clause of it but a note beside it.
-/
namespace TrackerFilter

namespace Query

def placeholder : String := "?"

def orderClause : String := "ORDER BY updated DESC"

def conjunction (clauses : List String) : String := " AND ".intercalate clauses

def membership (key operator : String) (values : List String) : String :=
  match values with
  | [] => key ++ " " ++ operator ++ " " ++ placeholder
  | values => key ++ " " ++ operator ++ " (" ++ ",".intercalate (values.map Text.quoted) ++ ")"

def equations (key : String) (values : List String) : String :=
  match values with
  | [] => key ++ " = " ++ placeholder
  | values => conjunction (values.map fun v => key ++ " = " ++ Text.quotedIfNeeded v)

def clause (v : FieldFilter) : String :=
  match v.inclusion with
  | .empty => v.key ++ " is EMPTY"
  | .includeAll => equations v.key v.values
  | .excludeAny => membership v.key "not in" v.values
  | .includeAny => membership v.key "in" v.values

def projectClause (f : Subscription) : String :=
  "project = " ++ orElseName (f.projectKey.getD "") placeholder

def issueTypeClauses (f : Subscription) : List String :=
  match f.issueTypes with
  | [] => []
  | ids => ["issuetype IN (" ++ ",".intercalate ids ++ ")"]

def render (f : Subscription) : String :=
  conjunction (projectClause f :: (issueTypeClauses f ++ f.fields.map clause)) ++ " " ++ orderClause

end Query

/-- Whether a filter is on the security level: by its key, or by the type of the field it names. -/
def FieldFilter.restrictsSecurity (fields : List CatalogField) (v : FieldFilter) : Bool :=
  v.isSecurity || (match findField fields v.key with
    | some f => f.isSecurityLevel
    | none => false)

def Subscription.restrictsSecurity (f : Subscription) (fields : List CatalogField) : Bool :=
  f.fields.any fun v => v.restrictsSecurity fields

namespace Note

def securityLevel : String :=
  "Note that since you have not selected a security level filter, the subscription will only allow " ++
    "issues that have no security level assigned."

def fieldRemoved : String :=
  "A field in this subscription has been removed from Jira, so the subscription is invalid. When this " ++
    "form is submitted, the configured field will be removed from the subscription to make the " ++
    "subscription valid again."

/-- The note on security levels, where only issues without one pass and no filter says so. -/
def onSecurity (f : Subscription) (fields : List CatalogField) (securityLevelEmpty : Bool) :
    List String :=
  if securityLevelEmpty && !f.restrictsSecurity fields then [securityLevel] else []

def onRemoval : List String → List String
  | [] => []
  | _ :: _ => [fieldRemoved]

theorem securityLevel_ne_fieldRemoved : securityLevel ≠ fieldRemoved := by decide

theorem mem_onSecurity {note : String} {f : Subscription} {fields : List CatalogField} {b : Bool} :
    note ∈ onSecurity f fields b ↔
      note = securityLevel ∧ b = true ∧ f.restrictsSecurity fields = false := by
  cases b <;> cases h : f.restrictsSecurity fields <;> simp [onSecurity, h]

theorem mem_onRemoval {note : String} {removed : List String} :
    note ∈ onRemoval removed ↔ note = fieldRemoved ∧ removed ≠ [] := by
  cases removed <;> simp [onRemoval]

theorem filter_ne {notes : List String} {note dropped : String} (h : ∀ n ∈ notes, n = note) :
    notes.filter (· ≠ dropped) = if note = dropped then [] else notes := by
  by_cases he : note = dropped
  · rw [if_pos he, List.filter_eq_nil_iff]
    intro n hn
    simpa [he] using h n hn
  · rw [if_neg he, List.filter_eq_self]
    intro n hn
    simpa [h n hn] using he

end Note

structure Preview where
  query : String
  notes : List String
  deriving DecidableEq

def Preview.ofSubscription (f : Subscription) (fields : List CatalogField) (securityLevelEmpty : Bool) :
    Preview :=
  ⟨Query.render f, Note.onSecurity f fields securityLevelEmpty⟩

end TrackerFilter
