import TrackerFilter.Gate
import TrackerFilter.Proofs.Conflict

/-!
The gate as a list of broken rules. Each rule is judged by itself and adds its refusal where it is
broken; the gate refuses with the first of the list, and accepts where the list is empty.
-/
namespace TrackerFilter

def verdict {ε α : Type} (errors : List ε) (a : α) : Except ε α :=
  match errors with
  | [] => .ok a
  | e :: _ => .error e

section
variable {ε α β : Type} {errors others : List ε} {a : α} {b : β} {e : ε}

/-- One check after another looks through the errors of both in order. -/
theorem verdict_bind {next : α → Except ε β} (h : next a = verdict others b) :
    verdict errors a >>= next = verdict (errors ++ others) b := by
  cases errors with
  | nil => exact h
  | cons e rest => rfl

theorem verdict_eq_ok {a' : α} : verdict errors a = .ok a' ↔ errors = [] ∧ a = a' := by
  cases errors <;> simp [verdict]

theorem verdict_eq_error : verdict errors a = .error e ↔ errors.head? = some e := by
  cases errors <;> simp [verdict]

end

theorem mapError_verdict {ε ε' α : Type} (g : ε → ε') (errors : List ε) (a : α) :
    (verdict errors a).mapError g = verdict (errors.map g) a := by
  cases errors <;> rfl

theorem verdict_map {ε α β : Type} (next : α → β) (errors : List ε) (a : α) :
    (verdict errors a).map next = verdict errors (next a) := by
  cases errors <;> rfl

def refusedIf (p : Prop) [Decidable p] (r : Refusal) : List Refusal := if p then [r] else []

section
variable {p : Prop} [Decidable p] {r s : Refusal}

theorem refusedIf_eq_nil : refusedIf p r = [] ↔ ¬ p := by
  by_cases h : p <;> simp [refusedIf, h]

theorem mem_refusedIf : s ∈ refusedIf p r ↔ p ∧ s = r := by
  by_cases h : p <;> simp [refusedIf, h]

theorem verdict_refusedIf {α : Type} (a : α) :
    verdict (refusedIf p r) a = if p then .error r else .ok a := by
  by_cases h : p <;> simp [refusedIf, verdict, h]

end

namespace CatalogField

theorem includeAny_mem_inclusions (f : CatalogField) (b : Bool) : .includeAny ∈ f.inclusions b := by
  simp [inclusions]

theorem empty_mem_inclusions (f : CatalogField) (b : Bool) : .empty ∈ f.inclusions b := by
  simp [inclusions]

theorem includeAll_mem_inclusions {f : CatalogField} {b : Bool} :
    .includeAll ∈ f.inclusions b ↔ f.schema.type = SchemaType.array := by
  cases b <;> cases h : f.isSecurityLevel <;> simp [inclusions, isMultiSelect, Schema.isArray, h]

theorem excludeAny_mem_inclusions {f : CatalogField} {b : Bool} :
    .excludeAny ∈ f.inclusions b ↔ ¬ (f.schema.type = SchemaType.securityLevel ∧ b = true) := by
  cases b <;> by_cases h : f.schema.type = SchemaType.securityLevel <;>
    simp [inclusions, isSecurityLevel, h]

end CatalogField

namespace FieldFilter

def inclusionFaults (policy : Policy) (field : CatalogField) (v : FieldFilter) : List Refusal :=
  refusedIf (v.inclusion = .includeAll ∧ field.schema.type ≠ SchemaType.array)
      (.inclusionNotAllowed .includeAll field) ++
    refusedIf (v.inclusion = .excludeAny ∧ field.schema.type = SchemaType.securityLevel ∧
      policy.securityLevelEmpty = true) .securityLevelExcluded

def faults (policy : Policy) (field : CatalogField) (v : FieldFilter) : List Refusal :=
  v.inclusionFaults policy field ++
    refusedIf (v.inclusion ≠ .empty ∧ v.values = []) (.missingValues field)

end FieldFilter

namespace Gate

def projectFaults (f : Subscription) : List Refusal :=
  refusedIf (f.projectKey = none ∨ f.projectKey = some "") .missingProject

def eventFaults (events : List String) : List Refusal :=
  refusedIf (events = []) .missingEvents ++
    refusedIf (∃ e ∈ events, Event.isKnown e = false)
      (.unknownEvents (events.filter fun e => !Event.isKnown e))

def issueTypeFaults (issueTypes : List String) : List Refusal :=
  refusedIf (issueTypes = []) .missingIssueTypes

/-- The faults of the filters in order; one on a field that is gone has none. -/
def filterFaults (policy : Policy) (fields : List CatalogField) (filters : List FieldFilter) :
    List Refusal :=
  filters.flatMap fun v =>
    match findField fields v.key with
    | none => []
    | some field => v.faults policy field

def screened (fields : List CatalogField) (filters : List FieldFilter) : Screening where
  kept := (filters.filter fun v => (findField fields v.key).isSome).map FieldFilter.normalized
  removed := (filters.filter fun v => (findField fields v.key).isNone).map FieldFilter.key

def conflictFaults (fields : List CatalogField) (issueTypes : List IssueType) (chosen : List String)
    (filters : List FieldFilter) : List Refusal :=
  (Conflict.first? fields issueTypes chosen filters).toList.map .fieldConflict

theorem checkProject_eq (f : Subscription) : checkProject f = verdict (projectFaults f) () := by
  rw [projectFaults, verdict_refusedIf, checkProject]
  cases f.projectKey <;> simp

theorem checkEvents_eq (events : List String) :
    checkEvents events = verdict (eventFaults events) () := by
  by_cases he : events = []
  · simp [checkEvents, eventFaults, refusedIf, verdict, he]
  · have hk : (∃ e ∈ events, Event.isKnown e = false) ↔
        events.filter (fun e => !Event.isKnown e) ≠ [] := by
      simp [List.filter_eq_nil_iff]
    rw [checkEvents, if_neg (by simpa using he)]
    cases hf : events.filter (fun e => !Event.isKnown e) with
    | nil => simp [eventFaults, refusedIf, verdict, he, hk, hf]
    | cons e rest => simp [eventFaults, refusedIf, verdict, he, hk, hf]

theorem checkIssueTypes_eq (issueTypes : List String) :
    checkIssueTypes issueTypes = verdict (issueTypeFaults issueTypes) () := by
  simp [issueTypeFaults, verdict_refusedIf, checkIssueTypes]

theorem checkInclusion_eq (policy : Policy) (field : CatalogField) (v : FieldFilter) :
    checkInclusion policy field v = verdict (v.inclusionFaults policy field) () := by
  cases hi : v.inclusion with
  | includeAny =>
    have hm := field.includeAny_mem_inclusions policy.securityLevelEmpty
    simp [checkInclusion, FieldFilter.inclusionFaults, refusedIf, verdict, hi, hm]
  | empty =>
    have hm := field.empty_mem_inclusions policy.securityLevelEmpty
    simp [checkInclusion, FieldFilter.inclusionFaults, refusedIf, verdict, hi, hm]
  | includeAll =>
    by_cases ht : field.schema.type = SchemaType.array
    · simp [checkInclusion, FieldFilter.inclusionFaults, refusedIf, verdict, hi, ht,
        CatalogField.includeAll_mem_inclusions]
    · simp [checkInclusion, FieldFilter.inclusionFaults, refusedIf, verdict, hi, ht,
        CatalogField.includeAll_mem_inclusions]
  | excludeAny =>
    by_cases ht : field.schema.type = SchemaType.securityLevel ∧ policy.securityLevelEmpty = true
    · simp [checkInclusion, FieldFilter.inclusionFaults, refusedIf, verdict, hi, ht.1, ht.2,
        CatalogField.excludeAny_mem_inclusions, CatalogField.isSecurityLevel]
    · simp [checkInclusion, FieldFilter.inclusionFaults, refusedIf, verdict, hi, ht,
        CatalogField.excludeAny_mem_inclusions]

theorem checkValues_eq (field : CatalogField) (v : FieldFilter) :
    checkValues field v =
      verdict (refusedIf (v.inclusion ≠ .empty ∧ v.values = []) (.missingValues field)) () := by
  rw [verdict_refusedIf, checkValues]

theorem screened_cons_gone {fields : List CatalogField} {v : FieldFilter} {rest : List FieldFilter}
    (h : findField fields v.key = none) :
    screened fields (v :: rest) =
      { screened fields rest with removed := v.key :: (screened fields rest).removed } := by
  simp [screened, h]

theorem screened_cons_found {fields : List CatalogField} {v : FieldFilter} {rest : List FieldFilter}
    {field : CatalogField} (h : findField fields v.key = some field) :
    screened fields (v :: rest) =
      { screened fields rest with kept := v.normalized :: (screened fields rest).kept } := by
  simp [screened, h]

theorem screen_eq (policy : Policy) (fields : List CatalogField) (filters : List FieldFilter) :
    screen policy fields filters =
      verdict (filterFaults policy fields filters) (screened fields filters) := by
  induction filters with
  | nil => rfl
  | cons v rest ih =>
    cases hf : findField fields v.key with
    | none =>
      have hs : filterFaults policy fields (v :: rest) = filterFaults policy fields rest ++ [] := by
        simp [filterFaults, hf]
      rw [screen, hf, hs, ih, screened_cons_gone hf]
      exact verdict_bind rfl
    | some field =>
      have hs : filterFaults policy fields (v :: rest) = v.inclusionFaults policy field ++
          (refusedIf (v.inclusion ≠ .empty ∧ v.values = []) (.missingValues field) ++
            (filterFaults policy fields rest ++ [])) := by
        simp [filterFaults, hf, FieldFilter.faults]
      rw [screen, hf, hs, ih, screened_cons_found hf]
      dsimp only
      rw [checkInclusion_eq, checkValues_eq]
      exact verdict_bind (verdict_bind (verdict_bind rfl))

theorem checkConflicts_eq (fields : List CatalogField) (issueTypes : List IssueType)
    (chosen : List String) (kept : List FieldFilter) :
    checkConflicts fields issueTypes chosen kept =
      verdict (conflictFaults fields issueTypes chosen kept) () := by
  rw [checkConflicts, conflictFaults]
  cases Conflict.first? fields issueTypes chosen kept <;> rfl

theorem isFiltered_kept {fields : List CatalogField} {filters : List FieldFilter} {f : CatalogField}
    (hf : f ∈ fields) : f.IsFiltered (screened fields filters).kept ↔ f.IsFiltered filters := by
  constructor
  · intro h
    obtain ⟨v, hv, hk⟩ := h
    obtain ⟨u, hu, rfl⟩ := List.mem_map.mp hv
    exact ⟨u, (List.mem_filter.mp hu).1, hk⟩
  · intro h
    obtain ⟨v, hv, hk⟩ := h
    have hs : (findField fields v.key).isSome := List.find?_isSome.mpr ⟨f, hf, by simp [hk]⟩
    exact ⟨v.normalized, List.mem_map_of_mem (List.mem_filter.mpr ⟨hv, hs⟩), hk⟩

theorem first?_kept (fields : List CatalogField) (issueTypes : List IssueType) (chosen : List String)
    (filters : List FieldFilter) :
    Conflict.first? fields issueTypes chosen (screened fields filters).kept =
      Conflict.first? fields issueTypes chosen filters := by
  rw [Conflict.first?, Conflict.first?, configured_congr fun _ hf => isFiltered_kept hf]

def faults (policy : Policy) (fields : List CatalogField) (f : Subscription) : List Refusal :=
  projectFaults f ++ (eventFaults f.events ++ (issueTypeFaults f.issueTypes ++
    filterFaults policy fields f.fields))

theorem evaluate_eq (policy : Policy) (fields : List CatalogField) (issueTypes : List IssueType)
    (f : Subscription) :
    evaluate policy fields issueTypes f =
      verdict (faults policy fields f ++ conflictFaults fields issueTypes f.issueTypes f.fields)
        (accept policy fields f (screened fields f.fields)) := by
  have hc : conflictFaults fields issueTypes f.issueTypes (screened fields f.fields).kept =
      conflictFaults fields issueTypes f.issueTypes f.fields := by
    rw [conflictFaults, first?_kept, conflictFaults]
  rw [evaluate, checkProject_eq, checkEvents_eq, checkIssueTypes_eq, screen_eq, faults,
    ← List.append_nil (conflictFaults _ _ _ _)]
  simp only [List.append_assoc]
  refine verdict_bind (verdict_bind (verdict_bind (verdict_bind ?_)))
  rw [checkConflicts_eq, hc]
  exact verdict_bind rfl

end Gate

end TrackerFilter
