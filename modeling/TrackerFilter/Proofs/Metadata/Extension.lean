import TrackerFilter.Proofs.Metadata.Lookup
import TrackerFilter.Proofs.Metadata.Traversal
import Mathlib.Data.List.Forall2

/-!
Grouping further projects. An occurrence adds its issue type at the end of its group, or opens a group at
the end, so the groups that are there keep their places and only grow. One whose issue type is listed in
its group already changes nothing, and so neither does a project that was walked before.
-/
namespace TrackerFilter

namespace GroupedField

structure GrowsTo (g h : GroupedField) : Prop where
  key : h.key = g.key
  changeLogId : h.changeLogId = g.changeLogId
  descriptor : h.descriptor = g.descriptor
  validIssueTypes : g.validIssueTypes <+: h.validIssueTypes

/-- The fields of the first list come first in the second, in their order and each of them grown. -/
inductive Continued : List GroupedField → List GroupedField → Prop
  | opened (hs : List GroupedField) : Continued [] hs
  | grown {g h : GroupedField} {gs hs : List GroupedField} (first : g.GrowsTo h)
      (rest : Continued gs hs) : Continued (g :: gs) (h :: hs)

section
variable {gs hs ks : List GroupedField} {g h k : GroupedField} {o : Occurrence}

theorem GrowsTo.refl (g : GroupedField) : g.GrowsTo g := ⟨rfl, rfl, rfl, List.prefix_rfl⟩

theorem GrowsTo.trans (hg : g.GrowsTo h) (hh : h.GrowsTo k) : g.GrowsTo k where
  key := hh.key.trans hg.key
  changeLogId := hh.changeLogId.trans hg.changeLogId
  descriptor := hh.descriptor.trans hg.descriptor
  validIssueTypes := hg.validIssueTypes.trans hh.validIssueTypes

theorem Continued.refl (gs : List GroupedField) : Continued gs gs := by
  induction gs with
  | nil => exact .opened []
  | cons g rest ih => exact .grown (.refl g) ih

theorem Continued.trans (hg : Continued gs hs) (hh : Continued hs ks) : Continued gs ks := by
  -- along the first list: what is behind its end is free to grow and to be followed by more
  induction hg generalizing ks with
  | opened => exact .opened ks
  | grown first _ ih =>
    cases hh with
    | grown next rest => exact .grown (first.trans next) (ih rest)

theorem Continued.exists_parts (hg : Continued gs hs) :
    ∃ grown opened, hs = grown ++ opened ∧ List.Forall₂ GrowsTo gs grown := by
  induction hg with
  | opened hs => exact ⟨[], hs, rfl, .nil⟩
  | grown first _ ih =>
    obtain ⟨grown, opened, rfl, hgrown⟩ := ih
    exact ⟨_ :: grown, opened, rfl, .cons first hgrown⟩

theorem map_key_of_grown (hg : List.Forall₂ GrowsTo gs hs) : hs.map key = gs.map key := by
  induction hg with
  | nil => rfl
  | cons first _ ih => rw [List.map_cons, List.map_cons, first.key, ih]

theorem growsTo_carriedBy (t : IssueTypeRef) (g : GroupedField) : g.GrowsTo (g.carriedBy t) := by
  rw [carriedBy]
  split
  · exact .refl g
  · exact ⟨rfl, rfl, rfl, List.prefix_append _ _⟩

theorem continued_note (o : Occurrence) (gs : List GroupedField) : Continued gs (note o gs) := by
  induction gs with
  | nil => exact .opened _
  | cons g rest ih =>
    rw [note]
    split
    · exact .grown (growsTo_carriedBy _ g) (.refl rest)
    · exact .grown (.refl g) ih

theorem continued_noteAll (os : List Occurrence) (gs : List GroupedField) :
    Continued gs (noteAll os gs) := by
  induction os generalizing gs with
  | nil => exact .refl gs
  | cons o rest ih => exact (continued_note o gs).trans (ih (note o gs))

/-- An occurrence changes nothing where its issue type is listed in its group. -/
theorem note_eq_self (hn : (gs.map key).Nodup) (hg : g ∈ gs) (hk : g.key = o.identity)
    (ht : o.issueType.id ∈ g.validIssueTypes.map IssueTypeRef.id) : note o gs = gs := by
  rw [note_of_mem hn (hk ▸ List.mem_map_of_mem hg)]
  refine (List.map_congr_left fun h hh => ?_).trans (List.map_id' gs)
  split
  · next he =>
    obtain rfl := List.inj_on_of_nodup_map hn hg hh (hk.trans he.symm)
    rw [carriedBy, if_pos (by simpa using ht)]
  · rfl

theorem noteAll_eq_self {os : List Occurrence} (h : ∀ o ∈ os, note o gs = gs) : noteAll os gs = gs := by
  induction os with
  | nil => rfl
  | cons o rest ih =>
    obtain ⟨ho, hrest⟩ := List.forall_mem_cons.mp h
    rw [noteAll, List.foldl_cons, ho]
    exact ih hrest

end

end GroupedField

section
variable {m : Option Metadata} {ps qs : List String} {grown opened : List GroupedField}
  {g : GroupedField} {o : Occurrence}

theorem groupedFields_append (m : Option Metadata) (ps qs : List String) :
    groupedFields m (ps ++ qs) = GroupedField.noteAll (occurrences m qs) (groupedFields m ps) := by
  rw [groupedFields, occurrences_append, GroupedField.noteAll_append]
  rfl

theorem groupedFields_append_eq_self_iff :
    groupedFields m (ps ++ qs) = groupedFields m ps ↔
      ∀ o ∈ occurrences m qs, ∃ p ∈ occurrences m ps,
        p.identity = o.identity ∧ p.issueType.id = o.issueType.id := by
  constructor
  · intro h o ho
    have hmem : o ∈ occurrences m (ps ++ qs) := by
      rw [occurrences_append]
      exact List.mem_append_right _ ho
    have hlisted := exists_listed_iff.mpr ⟨o, hmem, rfl, rfl⟩
    rw [h] at hlisted
    exact exists_listed_iff.mp hlisted
  · intro h
    rw [groupedFields_append]
    refine GroupedField.noteAll_eq_self fun o ho => ?_
    obtain ⟨g, hg, hk, ht⟩ := exists_listed_iff.mpr (h o ho)
    exact GroupedField.note_eq_self (nodup_keys_groupedFields m ps) hg hk ht

theorem issueTypesOf_eq_nil {key : String} (h : key = "" ∨ ∀ d ∈ m, ∀ p ∈ d.projects, p.key ≠ key) :
    issueTypesOf m (some key) = [] := by
  rw [issueTypesOf_eq, requestedProject?_eq_none.mpr h]
  rfl

theorem occurrences_of_opened (h : groupedFields m (ps ++ qs) = grown ++ opened)
    (hgrown : List.Forall₂ GroupedField.GrowsTo (groupedFields m ps) grown) (hg : g ∈ opened) :
    (∃ o ∈ occurrences m qs, o.identity = g.key) ∧ ∀ o ∈ occurrences m ps, o.identity ≠ g.key := by
  have hkeys := nodup_keys_groupedFields m (ps ++ qs)
  rw [h, List.map_append, GroupedField.map_key_of_grown hgrown, List.nodup_append] at hkeys
  have hbefore : ∀ o ∈ occurrences m ps, o.identity ≠ g.key := by
    intro o ho hk
    have hold := mem_keys_groupedFields.mpr ⟨o, ho, hk⟩
    exact hkeys.2.2 g.key hold g.key (List.mem_map_of_mem hg) rfl
  have hmem : g.key ∈ (groupedFields m (ps ++ qs)).map GroupedField.key := by
    rw [h]
    exact List.mem_map_of_mem (List.mem_append_right grown hg)
  obtain ⟨o, ho, hk⟩ := mem_keys_groupedFields.mp hmem
  rw [occurrences_append, List.mem_append] at ho
  exact ⟨⟨o, ho.resolve_left fun hp => hbefore o hp hk, hk⟩, hbefore⟩

theorem mem_occurrences_of_idle
    (h : ∀ key ∈ qs, key = "" ∨ (∀ d ∈ m, ∀ p ∈ d.projects, p.key ≠ key) ∨ key ∈ ps)
    (ho : o ∈ occurrences m qs) : o ∈ occurrences m ps := by
  obtain ⟨key, hkey, t, ht, hot⟩ := mem_occurrences.mp ho
  rcases or_assoc.mpr (h key hkey) with hn | hp
  · rw [issueTypesOf_eq_nil hn] at ht
    exact absurd ht List.not_mem_nil
  · exact mem_occurrences.mpr ⟨key, hp, t, ht, hot⟩

/-- With further projects the fields of the ones before come first, in their order, and only issue types
are added to the ends of their lists; each field behind them is one of the further projects that the ones
before do not have. And nothing changes where each further key is empty, is the key of no project or was
asked for before. -/
theorem groupedFields_extended (m : Option Metadata) (ps qs : List String) :
    (∃ grown opened, groupedFields m (ps ++ qs) = grown ++ opened ∧
        List.Forall₂ GroupedField.GrowsTo (groupedFields m ps) grown ∧
        ∀ g ∈ opened, (∃ o ∈ occurrences m qs, o.identity = g.key) ∧
          ∀ o ∈ occurrences m ps, o.identity ≠ g.key) ∧
      ((∀ key ∈ qs, key = "" ∨ (∀ d ∈ m, ∀ p ∈ d.projects, p.key ≠ key) ∨ key ∈ ps) →
        groupedFields m (ps ++ qs) = groupedFields m ps) := by
  constructor
  · have hcont := GroupedField.continued_noteAll (occurrences m qs) (groupedFields m ps)
    rw [← groupedFields_append] at hcont
    obtain ⟨grown, opened, heq, hgrown⟩ := hcont.exists_parts
    exact ⟨grown, opened, heq, hgrown, fun g hg => occurrences_of_opened heq hgrown hg⟩
  · intro h
    rw [groupedFields_append_eq_self_iff]
    exact fun o ho => ⟨o, mem_occurrences_of_idle h ho, rfl, rfl⟩

end

theorem sharingProjects_extended :
    (∃ grown opened, groupedFields (some sharingProjects) (["KT"] ++ ["OPS"]) = grown ++ opened ∧
        grown.map GroupedField.key = ["priority", "cf", "Severity"] ∧
        opened.map GroupedField.key = ["labels"]) ∧
      groupedFields (some sharingProjects) (["KT", "OPS"] ++ ["", "GONE", "KT"]) =
        groupedFields (some sharingProjects) ["KT", "OPS"] := by
  have hfurther := groupedFields_extended (some sharingProjects) ["KT"] ["OPS"]
  have hrepeated := groupedFields_extended (some sharingProjects) ["KT", "OPS"] ["", "GONE", "KT"]
  refine ⟨?_, hrepeated.2 (by decide)⟩
  obtain ⟨grown, opened, heq, hgrown, _⟩ := hfurther.1
  have hkeys : grown.map GroupedField.key = ["priority", "cf", "Severity"] :=
    (GroupedField.map_key_of_grown hgrown).trans (by decide)
  have hall : (grown ++ opened).map GroupedField.key = ["priority", "cf", "Severity"] ++ ["labels"] :=
    heq ▸ by decide
  rw [List.map_append, hkeys] at hall
  exact ⟨grown, opened, heq, hkeys, List.append_cancel_left hall⟩

end TrackerFilter
