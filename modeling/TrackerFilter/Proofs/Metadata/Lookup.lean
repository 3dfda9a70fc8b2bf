import TrackerFilter.Proofs.Metadata.Entries

/-!
The fields of one issue type, looked up and grouped. The look-up goes to the first issue type that has the
id and reads its field map. Grouping walks all issue types and turns this round: under each field it lists
the issue types that carry it. Both say which fields an issue type carries, and they agree on a project
whose issue types have distinct ids.
-/
namespace TrackerFilter

section
variable {m : Option Metadata} {project key id : String} {t : IssueType} {e : String × Descriptor}

theorem mem_fieldsOf : e ∈ fieldsOf m (some project) (some id) ↔
    id ≠ "" ∧ ∃ t ∈ (issueTypesOf m (some project)).find? (fun t => t.id = id), e ∈ t.fields := by
  by_cases hid : id = ""
  · simp [fieldsOf, hid]
  · simp only [fieldsOf, if_neg hid]
    cases (issueTypesOf m (some project)).find? fun t => t.id = id <;> simp [hid]

theorem mem_find?_id (hn : ((issueTypesOf m (some project)).map IssueType.id).Nodup) :
    t ∈ (issueTypesOf m (some project)).find? (fun t => t.id = id) ↔
      t ∈ issueTypesOf m (some project) ∧ t.id = id := by
  constructor
  · intro h
    exact ⟨List.mem_of_find?_eq_some h, by simpa using List.find?_some h⟩
  · intro h
    obtain ⟨ht, rfl⟩ := h
    rw [← distinctBy_of_nodup hn] at ht
    exact mem_distinctBy.mp ht

/-- The traversal of a project meets a field on an issue type exactly if some issue type of that id has
an entry of the field. -/
theorem exists_occurrence_iff :
    (∃ o ∈ occurrences m [project], o.identity = key ∧ o.issueType.id = id) ↔
      ∃ t ∈ issueTypesOf m (some project), t.id = id ∧ ∃ e ∈ t.fields, e.2.identity e.1 = key := by
  simp only [mem_occurrences, List.mem_singleton, exists_eq_left, IssueType.occurrences, List.mem_map]
  constructor
  · intro h
    obtain ⟨_, ⟨t, ht, e, he, rfl⟩, hk, hid⟩ := h
    exact ⟨t, ht, hid, e, he, hk⟩
  · intro h
    obtain ⟨t, ht, hid, e, he, hk⟩ := h
    exact ⟨_, ⟨t, ht, e, he, rfl⟩, hk, hid⟩

theorem listed_of_mem_fieldsOf (he : e ∈ fieldsOf m (some project) (some id)) :
    ∃ g ∈ groupedFields m [project], g.key = e.2.identity e.1 ∧
      id ∈ g.validIssueTypes.map IssueTypeRef.id := by
  obtain ⟨_, t, ht, het⟩ := mem_fieldsOf.mp he
  have hid : t.id = id := by simpa using List.find?_some ht
  rw [exists_listed_iff, exists_occurrence_iff]
  exact ⟨t, List.mem_of_find?_eq_some ht, hid, e, het, rfl⟩

/-- In a project whose issue types have distinct ids, subtasks apart, a grouped field is listed for an
issue type exactly if the look-up of this issue type finds an entry of the field. -/
theorem listed_iff_mem_fieldsOf (hn : ((issueTypesOf m (some project)).map IssueType.id).Nodup)
    (hid : id ≠ "") :
    (∃ g ∈ groupedFields m [project], g.key = key ∧ id ∈ g.validIssueTypes.map IssueTypeRef.id) ↔
      ∃ e ∈ fieldsOf m (some project) (some id), Describes e key := by
  simp only [describes_iff]
  constructor
  · intro h
    obtain ⟨t, ht, htid, e, he, hk⟩ := exists_occurrence_iff.mp (exists_listed_iff.mp h)
    exact ⟨e, mem_fieldsOf.mpr ⟨hid, t, (mem_find?_id hn).mpr ⟨ht, htid⟩, he⟩, hk⟩
  · intro h
    obtain ⟨e, he, rfl⟩ := h
    exact listed_of_mem_fieldsOf he

end

/-- Two projects that share a field. In the first, entries go without a key of their own, or without any
key, and a subtask with the id of an issue type has a field for itself. -/
def sharingProjects : Metadata where
  projects := [
    ⟨"KT", [⟨"1", "Bug", false, [("priority", keyless "Priority"), ("x", ⟨some "cf", "Team", false,
        Schema.plain, none⟩)]⟩,
      ⟨"1", "Sub-task", true, [("estimate", keyless "Estimate")]⟩,
      ⟨"2", "Task", false, [("", keyless "Severity")]⟩]⟩,
    ⟨"OPS", [⟨"3", "Incident", false, [("labels", keyless "Labels"), ("priority", keyless "Urgency")]⟩]⟩]
  workflows := []
where
  keyless (name : String) : Descriptor := ⟨none, name, false, Schema.plain, none⟩

theorem listed_sharingProjects :
    (∃ g ∈ groupedFields (some sharingProjects) ["KT"], g.key = "cf" ∧
        "1" ∈ g.validIssueTypes.map IssueTypeRef.id) ∧
      (∃ g ∈ groupedFields (some sharingProjects) ["KT"], g.key = "priority" ∧
        "1" ∈ g.validIssueTypes.map IssueTypeRef.id) ∧
      (∃ g ∈ groupedFields (some sharingProjects) ["KT"], g.key = "Severity" ∧
        "2" ∈ g.validIssueTypes.map IssueTypeRef.id) ∧
      ¬ ∃ g ∈ groupedFields (some sharingProjects) ["KT"], g.key = "estimate" ∧
        "1" ∈ g.validIssueTypes.map IssueTypeRef.id := by
  have hn : ((issueTypesOf (some sharingProjects) (some "KT")).map IssueType.id).Nodup := by decide
  have hlisted : ∀ key id, id ≠ "" →
      ((∃ g ∈ groupedFields (some sharingProjects) ["KT"], g.key = key ∧
          id ∈ g.validIssueTypes.map IssueTypeRef.id) ↔
        ∃ e ∈ fieldsOf (some sharingProjects) (some "KT") (some id), Describes e key) :=
    fun key id hid => listed_iff_mem_fieldsOf hn hid
  rw [hlisted "cf" "1" (by decide), hlisted "priority" "1" (by decide),
    hlisted "Severity" "2" (by decide), hlisted "estimate" "1" (by decide)]
  decide

end TrackerFilter
