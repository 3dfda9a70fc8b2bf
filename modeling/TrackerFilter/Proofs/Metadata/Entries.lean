import TrackerFilter.Proofs.Metadata.Grouping

/-!
The grouped fields of one project against the field maps of its issue types. The descriptor of a group is
that of the first entry of its key, and an issue type carries the field if it has such an entry.
-/
namespace TrackerFilter

/-- The first that is not empty of the key that the description gives, the key that the entry has in the
map, and the name. -/
def Describes (e : String × Descriptor) (key : String) : Prop :=
  ([e.2.key.getD "", e.1, e.2.name].find? fun s => s ≠ "").getD "" = key

instance (e : String × Descriptor) (key : String) : Decidable (Describes e key) :=
  inferInstanceAs (Decidable (_ = _))

theorem describes_iff {e : String × Descriptor} {key : String} :
    Describes e key ↔ e.2.identity e.1 = key := by
  have hidentity : e.2.identity e.1 =
      ([e.2.key.getD "", e.1, e.2.name].find? fun s => s ≠ "").getD "" := by
    by_cases hkey : e.2.key.getD "" = ""
    · by_cases hmap : e.1 = ""
      · by_cases hname : e.2.name = "" <;> simp [Descriptor.identity, orElseName, *]
      · simp [Descriptor.identity, orElseName, *]
    · simp [Descriptor.identity, orElseName, *]
  rw [Describes, hidentity]

/-- Of some entries, the one that is met first for a key. -/
def FirstDescribes (es : List (String × Descriptor)) (key : String) (e : String × Descriptor) : Prop :=
  ∃ before after, es = before ++ e :: after ∧ Describes e key ∧ ∀ u ∈ before, ¬ Describes u key

theorem firstDescribes_iff {es : List (String × Descriptor)} {key : String} {e : String × Descriptor} :
    FirstDescribes es key e ↔ es.find? (fun u => u.2.identity u.1 = key) = some e := by
  simp only [FirstDescribes, describes_iff, List.find?_eq_some_iff_append, decide_eq_true_eq,
    Bool.not_eq_true', decide_eq_false_iff_not]
  constructor
  · rintro ⟨before, after, hes, hkey, hbefore⟩
    exact ⟨hkey, before, after, hes, hbefore⟩
  · rintro ⟨hkey, before, after, hes, hbefore⟩
    exact ⟨before, after, hes, hkey, hbefore⟩

namespace Project

def entries (p : Project) : List (String × Descriptor) :=
  (p.issueTypes.filter fun t => t.subtask = false).flatMap IssueType.fields

def Carries (p : Project) (issueType key : String) : Prop :=
  ∃ t ∈ p.issueTypes, t.subtask = false ∧ t.id = issueType ∧ ∃ e ∈ t.fields, Describes e key

def occurrences (p : Project) : List Occurrence := p.standardTypes.flatMap IssueType.occurrences

theorem mem_standardTypes {p : Project} {t : IssueType} :
    t ∈ p.standardTypes ↔ t ∈ p.issueTypes ∧ t.subtask = false := by
  simp [standardTypes]

theorem carries_iff {p : Project} {issueType key : String} :
    p.Carries issueType key ↔ ∃ o ∈ p.occurrences, o.identity = key ∧ o.issueType.id = issueType := by
  constructor
  · intro h
    obtain ⟨t, ht, hsub, hid, e, he, hk⟩ := h
    refine ⟨⟨e.2.identity e.1, e.2, t.ref⟩, ?_, describes_iff.mp hk, hid⟩
    exact List.mem_flatMap.mpr ⟨t, mem_standardTypes.mpr ⟨ht, hsub⟩, List.mem_map_of_mem he⟩
  · intro h
    obtain ⟨o, ho, hk, hid⟩ := h
    obtain ⟨t, ht, hto⟩ := List.mem_flatMap.mp ho
    obtain ⟨e, he, rfl⟩ := List.mem_map.mp hto
    obtain ⟨hp, hsub⟩ := mem_standardTypes.mp ht
    exact ⟨t, hp, hsub, hid, e, he, describes_iff.mpr hk⟩

theorem map_occurrences (p : Project) :
    p.occurrences.map (fun o => (o.identity, o.descriptor)) =
      p.entries.map fun e => (e.2.identity e.1, e.2) := by
  have hs : p.issueTypes.filter (fun t => t.subtask = false) = p.standardTypes := by
    simp [standardTypes]
  simp only [occurrences, entries, hs, List.map_flatMap]
  refine List.flatMap_congr fun t _ => ?_
  simp [IssueType.occurrences, Function.comp_def]

theorem descriptor_find?_entries (p : Project) (key : String) :
    (p.entries.find? fun e => e.2.identity e.1 = key).map Prod.snd =
      (p.occurrences.find? fun o => o.identity = key).map Occurrence.descriptor := by
  have h := congrArg (fun l => (l.find? fun x => x.1 = key).map Prod.snd) p.map_occurrences
  simp only [List.find?_map, Option.map_map, Function.comp_def] at h
  exact h.symm

end Project

theorem occurrences_project {d : Metadata} {p : Project} {key : String} (hk : key ≠ "")
    (hp : d.project? key = some p) : occurrences (some d) [key] = p.occurrences := by
  simp [occurrences, issueTypesOf, hk, hp, Project.occurrences]

section
variable {d : Metadata} {p : Project} {key : String} {g : GroupedField}

theorem mem_validIssueTypes_project (hk : key ≠ "") (hp : d.project? key = some p)
    (hg : g ∈ groupedFields (some d) [key]) (id : String) :
    id ∈ g.validIssueTypes.map IssueTypeRef.id ↔ p.Carries id g.key := by
  rw [mem_validIssueTypes hg, occurrences_project hk hp, Project.carries_iff]

theorem exists_entry_of_mem_groupedFields (hk : key ≠ "") (hp : d.project? key = some p)
    (hg : g ∈ groupedFields (some d) [key]) :
    ∃ e, FirstDescribes p.entries g.key e ∧ e.2 = g.descriptor := by
  obtain ⟨o, ho, hgo⟩ := exists_first_of_mem_groupedFields hg
  rw [occurrences_project hk hp] at ho
  have he : (p.entries.find? fun e => e.2.identity e.1 = g.key).map Prod.snd = some o.descriptor := by
    rw [p.descriptor_find?_entries, ho, Option.map_some]
  obtain ⟨e, hee, hed⟩ := Option.map_eq_some_iff.mp he
  exact ⟨e, firstDescribes_iff.mpr hee, hed.trans (congrArg GroupedField.descriptor hgo)⟩

end

end TrackerFilter
