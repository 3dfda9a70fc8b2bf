import TrackerFilter.Distinct
import TrackerFilter.Metadata.Grouping
import Mathlib.Data.List.Induction
import Mathlib.Data.List.Nodup

/-!
Grouping opens one group for each identity, so the keys of the grouped fields tell them apart. A group
has the descriptor of the first occurrence of its key, and the issue types of all of them.
-/
namespace TrackerFilter

namespace GroupedField

/-- The group of one occurrence among many: the issue types come from all occurrences of its key. -/
def gathered (os : List Occurrence) (o : Occurrence) : GroupedField where
  key := o.identity
  changeLogId := o.descriptor.changeLogId
  descriptor := o.descriptor
  validIssueTypes :=
    distinctBy IssueTypeRef.id ((os.filter fun p => p.identity = o.identity).map Occurrence.issueType)

theorem note_of_notMem {o : Occurrence} {gs : List GroupedField} (h : o.identity ∉ gs.map key) :
    note o gs = gs ++ [ofOccurrence o] := by
  induction gs with
  | nil => rfl
  | cons g rest ih =>
    simp only [List.map_cons, List.mem_cons, not_or] at h
    rw [note, if_neg (Ne.symm h.1), ih h.2, List.cons_append]

theorem note_of_mem {o : Occurrence} {gs : List GroupedField} (hn : (gs.map key).Nodup)
    (h : o.identity ∈ gs.map key) :
    note o gs = gs.map fun g => if g.key = o.identity then g.carriedBy o.issueType else g := by
  induction gs with
  | nil => simp at h
  | cons g rest ih =>
    simp only [List.map_cons, List.nodup_cons, List.mem_cons] at hn h
    by_cases hg : g.key = o.identity
    · have hrest : rest.map (fun g => if g.key = o.identity then g.carriedBy o.issueType else g) =
          rest := by
        refine (List.map_congr_left fun g' hg' => if_neg fun he => hn.1 ?_).trans (List.map_id' rest)
        exact hg ▸ he ▸ List.mem_map_of_mem hg'
      rw [note, if_pos hg, List.map_cons, if_pos hg, hrest]
    · rw [note, if_neg hg, List.map_cons, if_neg hg, ih hn.2 (h.resolve_left (Ne.symm hg))]

theorem gathered_concat (os : List Occurrence) (o p : Occurrence) :
    gathered (os ++ [p]) o =
      if o.identity = p.identity then (gathered os o).carriedBy p.issueType else gathered os o := by
  by_cases h : o.identity = p.identity
  · have hmem : ((gathered os o).validIssueTypes.any fun u => u.id = p.issueType.id) = true ↔
        p.issueType.id ∈ ((os.filter fun q => q.identity = o.identity).map
          Occurrence.issueType).map IssueTypeRef.id := by
      rw [← mem_map_distinctBy]
      simp [gathered]
    rw [if_pos h, carriedBy]
    simp only [hmem]
    simp only [gathered, List.filter_append, List.map_append, h.symm, decide_true, List.filter_cons,
      List.filter_nil, if_true, List.map_cons, List.map_nil, distinctBy_concat]
    split <;> rfl
  · have hp : ¬ p.identity = o.identity := fun e => h e.symm
    simp [gathered, h, hp]

theorem gathered_new {os : List Occurrence} {p : Occurrence}
    (h : p.identity ∉ os.map Occurrence.identity) : gathered (os ++ [p]) p = ofOccurrence p := by
  have hf : os.filter (fun q => q.identity = p.identity) = [] := by
    rw [List.filter_eq_nil_iff]
    intro q hq he
    have hk : q.identity = p.identity := of_decide_eq_true he
    exact h (hk ▸ List.mem_map_of_mem hq)
  simp [gathered, ofOccurrence, hf, distinctBy]

/-- Noting the occurrences one by one gathers each key under its first occurrence. -/
theorem noteAll_nil (os : List Occurrence) :
    noteAll os [] = (distinctBy Occurrence.identity os).map (gathered os) := by
  induction os using List.reverseRecOn with
  | nil => rfl
  | append_singleton os p ih =>
    have hkeys : ((distinctBy Occurrence.identity os).map (gathered os)).map key =
        (distinctBy Occurrence.identity os).map Occurrence.identity := by
      rw [List.map_map]
      rfl
    have hnote : noteAll (os ++ [p]) [] = note p (noteAll os []) := noteAll_append os [p] []
    rw [hnote, ih, distinctBy_concat]
    -- a known key changes its own group, and a new one opens the last group
    by_cases hp : p.identity ∈ os.map Occurrence.identity
    · have hmem := (mem_map_distinctBy _ _ _).mpr hp
      rw [note_of_mem (hkeys ▸ nodup_map_distinctBy _ _) (hkeys ▸ hmem), if_pos hp, List.map_map]
      exact List.map_congr_left fun o _ => (gathered_concat os o p).symm
    · have hmem := mt (mem_map_distinctBy _ _ _).mp hp
      rw [note_of_notMem (hkeys ▸ hmem), if_neg hp, List.map_append, List.map_singleton,
        gathered_new hp]
      refine congrArg (· ++ [ofOccurrence p]) (List.map_congr_left fun o ho => ?_)
      have hne : o.identity ≠ p.identity := fun e => hmem (e ▸ List.mem_map_of_mem ho)
      rw [gathered_concat, if_neg hne]

theorem exists_first_of_mem_noteAll {os : List Occurrence} {g : GroupedField} (hg : g ∈ noteAll os []) :
    ∃ o, os.find? (fun p => p.identity = g.key) = some o ∧ gathered os o = g := by
  rw [noteAll_nil] at hg
  obtain ⟨o, ho, rfl⟩ := List.mem_map.mp hg
  exact ⟨o, mem_distinctBy.mp ho, rfl⟩

end GroupedField

theorem groupedFields_eq (m : Option Metadata) (projects : List String) :
    groupedFields m projects = (distinctBy Occurrence.identity (occurrences m projects)).map
      (GroupedField.gathered (occurrences m projects)) :=
  GroupedField.noteAll_nil _

theorem nodup_keys_groupedFields (m : Option Metadata) (projects : List String) :
    ((groupedFields m projects).map GroupedField.key).Nodup := by
  rw [groupedFields_eq, List.map_map]
  exact nodup_map_distinctBy _ _

theorem groupedFields_eq_of_key_eq {m : Option Metadata} {projects : List String} {g h : GroupedField}
    (hg : g ∈ groupedFields m projects) (hh : h ∈ groupedFields m projects) (hk : g.key = h.key) :
    g = h :=
  List.inj_on_of_nodup_map (nodup_keys_groupedFields m projects) hg hh hk

theorem mem_occurrences {m : Option Metadata} {projects : List String} {o : Occurrence} :
    o ∈ occurrences m projects ↔
      ∃ key ∈ projects, ∃ t ∈ issueTypesOf m (some key), o ∈ t.occurrences := by
  induction projects with
  | nil => simp [occurrences]
  | cons key rest ih => simp [occurrences, ih]

theorem occurrences_none (projects : List String) : occurrences none projects = [] := by
  induction projects with
  | nil => rfl
  | cons p rest ih => simpa [occurrences, issueTypesOf] using ih

theorem groupedFields_none (projects : List String) : groupedFields none projects = [] := by
  rw [groupedFields, occurrences_none]
  rfl

section
variable {m : Option Metadata} {projects : List String} {g : GroupedField}

theorem exists_first_of_mem_groupedFields (hg : g ∈ groupedFields m projects) :
    ∃ o, (occurrences m projects).find? (fun p => p.identity = g.key) = some o ∧
      GroupedField.gathered (occurrences m projects) o = g :=
  GroupedField.exists_first_of_mem_noteAll hg

theorem mem_validIssueTypes (hg : g ∈ groupedFields m projects) (id : String) :
    id ∈ g.validIssueTypes.map IssueTypeRef.id ↔
      ∃ o ∈ occurrences m projects, o.identity = g.key ∧ o.issueType.id = id := by
  obtain ⟨o, _, rfl⟩ := exists_first_of_mem_groupedFields hg
  simp only [GroupedField.gathered, mem_map_distinctBy]
  simp [and_assoc]

theorem mem_keys_groupedFields {key : String} :
    key ∈ (groupedFields m projects).map GroupedField.key ↔
      ∃ o ∈ occurrences m projects, o.identity = key := by
  have hkeys : (groupedFields m projects).map GroupedField.key =
      (distinctBy Occurrence.identity (occurrences m projects)).map Occurrence.identity := by
    rw [groupedFields_eq, List.map_map]
    rfl
  rw [hkeys, mem_map_distinctBy, List.mem_map]

theorem exists_listed_iff {key id : String} :
    (∃ g ∈ groupedFields m projects, g.key = key ∧ id ∈ g.validIssueTypes.map IssueTypeRef.id) ↔
      ∃ o ∈ occurrences m projects, o.identity = key ∧ o.issueType.id = id := by
  constructor
  · intro h
    obtain ⟨g, hg, rfl, hid⟩ := h
    exact (mem_validIssueTypes hg id).mp hid
  · intro h
    obtain ⟨o, ho, hk, hid⟩ := h
    obtain ⟨g, hg, hgk⟩ := List.mem_map.mp (mem_keys_groupedFields.mpr ⟨o, ho, hk⟩)
    exact ⟨g, hg, hgk, (mem_validIssueTypes hg id).mpr ⟨o, ho, hk.trans hgk.symm, hid⟩⟩

end

end TrackerFilter
