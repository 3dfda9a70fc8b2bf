import TrackerFilter.Proofs.Distinct
import TrackerFilter.Proofs.Metadata.Entries

/-!
The grouped fields of some projects against the entries of the metadata. The occurrences are the entries
of the field maps, read project by project and issue type by issue type, and grouping parts them by their
identities. What this says of a group settles it, so no other fields answer to the same occurrences.
-/
namespace TrackerFilter

/-- The project that a key asks for, of several with one key the first. The empty key asks for none. -/
def requestedProject? (m : Option Metadata) (key : String) : Option Project :=
  if key = "" then none else m.bind fun d => d.projects.find? fun p => p.key = key

def requestedProjects (m : Option Metadata) (keys : List String) : List Project :=
  keys.filterMap (requestedProject? m)

/-- Fields that are the occurrences parted by their identities: one field for each of them, in the order
in which they are first seen, described as in the first of its occurrences and carried by the issue types
of all of them. -/
structure IsGrouping (os : List Occurrence) (gs : List GroupedField) : Prop where
  keys : gs.map GroupedField.key = (os.map Occurrence.identity).eraseDups
  first : ∀ g ∈ gs, ∃ o, os.find? (fun p => p.identity = g.key) = some o ∧
    g.descriptor = o.descriptor ∧ g.changeLogId = o.descriptor.changeLogId
  issueTypes : ∀ g ∈ gs, FirstSeen IssueTypeRef.id
    ((os.filter fun p => p.identity = g.key).map Occurrence.issueType) g.validIssueTypes

section
variable {os : List Occurrence} {gs : List GroupedField}

theorem isGrouping_noteAll (os : List Occurrence) : IsGrouping os (GroupedField.noteAll os []) := by
  constructor
  case keys =>
    rw [GroupedField.noteAll_nil, List.map_map]
    exact map_distinctBy Occurrence.identity os
  case first =>
    intro g hg
    obtain ⟨o, ho, rfl⟩ := GroupedField.exists_first_of_mem_noteAll hg
    exact ⟨o, ho, rfl, rfl⟩
  case issueTypes =>
    intro g hg
    obtain ⟨o, _, rfl⟩ := GroupedField.exists_first_of_mem_noteAll hg
    exact distinctBy_eq_iff.mp rfl

theorem IsGrouping.eq_filterMap (h : IsGrouping os gs) :
    gs = (os.map Occurrence.identity).eraseDups.filterMap fun k =>
      (os.find? fun p => p.identity = k).map (GroupedField.gathered os) := by
  rw [← h.keys, List.filterMap_map]
  have hg : ∀ g ∈ gs,
      (os.find? fun p => p.identity = g.key).map (GroupedField.gathered os) = some g := by
    intro g hg
    obtain ⟨o, ho, hd, hc⟩ := h.first g hg
    have hk : o.identity = g.key := by simpa using List.find?_some ho
    have ht := distinctBy_eq_iff.mpr (h.issueTypes g hg)
    rw [ho, Option.map_some, GroupedField.gathered, hk, ht, ← hc, ← hd]
  exact ((List.filterMap_congr hg).trans List.filterMap_some).symm

theorem noteAll_eq_iff : GroupedField.noteAll os [] = gs ↔ IsGrouping os gs := by
  constructor
  · intro h
    exact h ▸ isGrouping_noteAll os
  · intro h
    rw [(isGrouping_noteAll os).eq_filterMap, ← h.eq_filterMap]

end

section
variable (m : Option Metadata)

theorem requestedProject?_eq_none {m : Option Metadata} {key : String} :
    requestedProject? m key = none ↔ key = "" ∨ ∀ d ∈ m, ∀ p ∈ d.projects, p.key ≠ key := by
  cases m with
  | none => simp [requestedProject?]
  | some d => simp [requestedProject?, or_iff_not_imp_left]

theorem issueTypesOf_eq (key : String) : issueTypesOf m (some key) =
    ((requestedProject? m key).map Project.standardTypes).getD [] := by
  by_cases hk : key = ""
  · cases m <;> simp [issueTypesOf, requestedProject?, hk]
  · cases m with
    | none => simp [issueTypesOf, requestedProject?]
    | some d =>
      simp only [issueTypesOf, if_neg hk, requestedProject?, Option.bind_some, Metadata.project?]
      cases d.projects.find? fun p => p.key = key <;> rfl

theorem occurrences_eq_flatMap (keys : List String) :
    occurrences m keys = (requestedProjects m keys).flatMap Project.occurrences := by
  induction keys with
  | nil => rfl
  | cons key rest ih =>
    simp only [occurrences, ih, issueTypesOf_eq, requestedProjects, List.filterMap_cons]
    cases requestedProject? m key <;> rfl

/-- The occurrences are the entries of the requested projects, one for each and in their order, and the
grouped fields are exactly what parts them by their identities. -/
theorem groupedFields_eq_iff (keys : List String) :
    (occurrences m keys = (requestedProjects m keys).flatMap fun p =>
        (p.issueTypes.filter fun t => !t.subtask).flatMap fun t =>
          t.fields.map fun e => ⟨e.2.identity e.1, e.2, ⟨t.id, t.name⟩⟩) ∧
      ∀ gs, groupedFields m keys = gs ↔ IsGrouping (occurrences m keys) gs :=
  ⟨occurrences_eq_flatMap m keys, fun _ => noteAll_eq_iff⟩

end

end TrackerFilter
