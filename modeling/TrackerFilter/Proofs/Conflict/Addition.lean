import TrackerFilter.Proofs.Conflict
import Mathlib.Data.List.Find

/-!
The message on added issue types. It lists every filtered field that some of them lacks, and names the
first issue type that the first of these fields lacks. Another field may lack one that was added earlier,
and then the message does not name the earliest.
-/
namespace TrackerFilter

def firstLacking (fields : List CatalogField) (ids : List String) : Option String :=
  ids.find? fun id => fields.any fun f => !f.carries id

def lackingFields (fields : List CatalogField) (filters : List FieldFilter) (ids : List String) :
    List CatalogField :=
  fields.filter fun f => (filters.any fun v => v.key = f.key) && ids.any fun id => !f.carries id

section
variable {fields : List CatalogField} {issueTypes : List IssueType} {filters : List FieldFilter}
  {chosen previous current : List String} {c : AdditionConflict}

theorem firstLacking_nil (ids : List String) : firstLacking [] ids = none := by
  simp [firstLacking, List.find?_eq_none]

theorem head?_lacking (f : CatalogField) : (f.lacking issueTypes chosen).head? =
    (firstLacking [f] chosen).map (resolve issueTypes) := by
  simp [CatalogField.lacking, firstLacking, List.head?_filter]

theorem conflicts_eq_map : conflicts fields chosen issueTypes =
    (fields.filter fun f => chosen.any fun id => !f.carries id).map fun f =>
      ⟨f, f.lacking issueTypes chosen⟩ := by
  induction fields with
  | nil => rfl
  | cons f rest ih =>
    rw [conflicts, List.filterMap_cons, ← conflicts, ih]
    cases hl : f.lacking issueTypes chosen with
    | nil =>
      have hcar := (f.lacking_eq_nil issueTypes chosen).mp hl
      rw [List.filter_cons_of_neg (by simpa using hcar)]
    | cons t ts =>
      have hn : ¬ ∀ id ∈ chosen, f.carries id = true := fun hcar =>
        List.cons_ne_nil t ts (hl.symm.trans ((f.lacking_eq_nil issueTypes chosen).mpr hcar))
      rw [List.filter_cons_of_pos (by simpa using hn), List.map_cons, hl]

theorem conflicts_configured_eq_map : conflicts (configured fields filters) chosen issueTypes =
    (lackingFields fields filters chosen).map fun f => ⟨f, f.lacking issueTypes chosen⟩ := by
  rw [conflicts_eq_map, configured, List.filter_filter, lackingFields]
  simp only [Bool.and_comm]

theorem AdditionConflict.find?_eq_some :
    AdditionConflict.find? fields issueTypes previous current filters = some c ↔
      c.fields = lackingFields fields filters (added previous current) ∧
        (firstLacking (c.fields.take 1) (added previous current)).map (resolve issueTypes) =
          some c.issueType := by
  obtain ⟨t, listed⟩ := c
  rw [AdditionConflict.find?, conflicts_configured_eq_map]
  cases lackingFields fields filters (added previous current) with
  | nil =>
    simp only [List.map_nil, AdditionConflict.ofConflicts]
    constructor
    · intro h
      exact absurd h (Option.some_ne_none _).symm
    · intro h
      obtain ⟨rfl, ht⟩ := h
      simp [firstLacking_nil] at ht
  | cons f rest =>
    simp only [List.map_cons, AdditionConflict.ofConflicts, head?_lacking, List.map_map,
      Function.comp_def, List.map_id', Option.map_eq_some_iff, AdditionConflict.mk.injEq]
    constructor
    · intro h
      obtain ⟨_, ⟨id, hid, rfl⟩, rfl, rfl⟩ := h
      exact ⟨rfl, id, hid, rfl⟩
    · intro h
      obtain ⟨rfl, id, hid, rfl⟩ := h
      exact ⟨_, ⟨id, hid, rfl⟩, rfl, rfl⟩

/-- The first of the fields decides only if it lacks the first issue type that any of them lacks. -/
theorem firstLacking_cons_eq_iff {f : CatalogField} {rest : List CatalogField} {ids : List String}
    {id : String} (h : firstLacking (f :: rest) ids = some id) :
    firstLacking [f] ids = some id ↔ f.carries id = false := by
  obtain ⟨_, before, after, rfl, hbefore⟩ := List.find?_eq_some_iff_append.mp h
  have hcar : ∀ i ∈ before, f.carries i = true := fun i hi => by
    have hi' := hbefore i hi
    simp only [List.any_cons, Bool.not_or, Bool.not_not, Bool.and_eq_true] at hi'
    exact hi'.1
  constructor
  · intro hf
    simpa [firstLacking] using List.find?_some hf
  · intro hf
    refine List.find?_eq_some_iff_append.mpr ⟨by simpa using hf, before, after, rfl, fun i hi => ?_⟩
    simpa using hcar i hi

theorem firstLacking_lackingFields (fields : List CatalogField) (filters : List FieldFilter)
    (ids : List String) :
    firstLacking (lackingFields fields filters ids) ids =
      firstLacking (configured fields filters) ids := by
  refine List.find?_congr fun id hid => ?_
  rw [Bool.eq_iff_iff]
  simp only [List.any_eq_true, lackingFields, configured, List.mem_filter, Bool.and_eq_true]
  constructor
  · intro h
    obtain ⟨f, ⟨hf, hv, _⟩, hid'⟩ := h
    exact ⟨f, ⟨hf, hv⟩, hid'⟩
  · intro h
    obtain ⟨f, ⟨hf, hv⟩, hid'⟩ := h
    exact ⟨f, ⟨hf, hv, id, hid, hid'⟩, hid'⟩

theorem resolve_injective (issueTypes : List IssueType) : Function.Injective (resolve issueTypes) :=
  fun _ _ h => congrArg IssueTypeRef.id h

/-- The message lists the filtered fields that some added issue type lacks, in the order of the catalog,
and names the first added issue type that the first of them lacks. Exactly if that field also lacks the
first added issue type that any filtered field lacks, it is the one that is named. -/
theorem addition_names_first_iff
    (h : AdditionConflict.find? fields issueTypes previous current filters = some c) :
    c.fields = lackingFields fields filters (added previous current) ∧
      (firstLacking (c.fields.take 1) (added previous current)).map (resolve issueTypes) =
        some c.issueType ∧
      ((firstLacking (configured fields filters) (added previous current)).map (resolve issueTypes) =
          some c.issueType ↔
        ∃ f ∈ c.fields.head?, ∃ id ∈ firstLacking (configured fields filters) (added previous current),
          f.carries id = false) := by
  obtain ⟨hf, ht⟩ := AdditionConflict.find?_eq_some.mp h
  refine ⟨hf, ht, ?_⟩
  rw [← firstLacking_lackingFields, ← hf]
  cases hc : c.fields with
  | nil => simp [hc, firstLacking_nil] at ht
  | cons f rest =>
    rw [hc, List.take_succ_cons, List.take_zero] at ht
    obtain ⟨named, hn, hres⟩ := Option.map_eq_some_iff.mp ht
    rw [← hres]
    cases he : firstLacking (f :: rest) (added previous current) with
    | none => simp
    | some id =>
      have hid : named = id ↔ f.carries id = false := by
        rw [← firstLacking_cons_eq_iff he, hn, Option.some.injEq]
      constructor
      · intro hr
        have hnamed := resolve_injective issueTypes (Option.some.inj hr)
        exact ⟨f, rfl, id, rfl, hid.mp hnamed.symm⟩
      · intro hl
        obtain ⟨g, hg, i, hi, hcar⟩ := hl
        obtain rfl : f = g := Option.some.inj hg
        obtain rfl : id = i := Option.some.inj hi
        rw [hid.mpr hcar, Option.map_some]

end

theorem addition_names_later :
    (AdditionConflict.find? crossedFields threeIssueTypes ["1"] ["1", "2", "3"]
        [betaFilter, alphaFilter]).map AdditionConflict.message =
      some ("Issue Type(s) \"Story\" does not have filter field(s): \"Alpha, Beta\".  " ++
        "Please update the conflicting fields or create a separate subscription.") ∧
      added ["1"] ["1", "2", "3"] = ["2", "3"] ∧
      firstLacking (configured crossedFields [betaFilter, alphaFilter]) ["2", "3"] = some "2" ∧
      resolve threeIssueTypes "2" = ⟨"2", "Task"⟩ := by
  decide +kernel

theorem addition_names_first_crossedFields :
    AdditionConflict.find? crossedFields threeIssueTypes ["1"] ["3", "1", "2"]
        [betaFilter, alphaFilter] = some ⟨⟨"3", "Story"⟩, crossedFields⟩ ∧
      (firstLacking (configured crossedFields [betaFilter, alphaFilter])
        (added ["1"] ["3", "1", "2"])).map (resolve threeIssueTypes) = some ⟨"3", "Story"⟩ := by
  have h : AdditionConflict.find? crossedFields threeIssueTypes ["1"] ["3", "1", "2"]
      [betaFilter, alphaFilter] = some ⟨⟨"3", "Story"⟩, crossedFields⟩ := by decide
  exact ⟨h, (addition_names_first_iff h).2.2.mpr ⟨_, rfl, "3", by decide, by decide⟩⟩

end TrackerFilter
