import TrackerFilter.Proofs.Draft.Selection

/-!
A new selection of issue types, written down in two ways. The check looks at the length of the list: one
that is longer than the old selection is checked for what it adds, any other as a whole. Lists without
repeats that select the same issue types get the same verdict. A list with repeats can be the longer one
without adding anything, and then a conflict of the issue types that stay goes unnoticed.
-/
namespace TrackerFilter

def retained (previous current : List String) : List String :=
  current.filter fun id => previous.contains id

section
variable {fields : List CatalogField} {filters : List FieldFilter}
  {previous current others : List String}

theorem mem_retained {id : String} :
    id ∈ retained previous current ↔ id ∈ current ∧ id ∈ previous := by
  simp [retained]

theorem compatible_congr (h : ∀ id, id ∈ current ↔ id ∈ others) :
    Compatible fields filters current ↔ Compatible fields filters others :=
  ⟨fun hc => hc.of_subset fun id hid => (h id).mpr hid,
    fun hc => hc.of_subset fun id hid => (h id).mp hid⟩

theorem compatible_iff_added_and_retained (previous current : List String) :
    Compatible fields filters current ↔
      Compatible fields filters (added previous current) ∧
        Compatible fields filters (retained previous current) := by
  constructor
  · intro h
    exact ⟨h.of_subset fun id hid => (mem_added.mp hid).1,
      h.of_subset fun id hid => (mem_retained.mp hid).1⟩
  · intro h f hf hfil id hid
    obtain ⟨hadded, hretained⟩ := h
    by_cases hp : id ∈ previous
    · exact hretained f hf hfil id (mem_retained.mpr ⟨hid, hp⟩)
    · exact hadded f hf hfil id (mem_added.mpr ⟨hid, hp⟩)

theorem mem_added_congr (h : ∀ id, id ∈ current ↔ id ∈ others) (id : String) :
    id ∈ added previous current ↔ id ∈ added previous others := by
  rw [mem_added, mem_added, h id]

end

namespace Subscription

/-- Of two lists one is longer than the selection of the draft and the other is not. What they add is in
no conflict, and what they retain of the selection is in one. -/
structure SplitVerdict (m : Option Metadata) (f : Subscription) (xs ys : List String) : Prop where
  lengths : ¬ (f.issueTypes.length < xs.length ↔ f.issueTypes.length < ys.length)
  added : Compatible (f.catalog m) f.fields (added f.issueTypes xs)
  retained : ¬ Compatible (f.catalog m) f.fields (retained f.issueTypes xs)

section
variable {m : Option Metadata} {f : Subscription} {xs ys : List String}

theorem objection_eq_none_of_longer (hl : f.issueTypes.length < xs.length) :
    f.objection m xs = none ↔ Compatible (f.catalog m) f.fields (added f.issueTypes xs) := by
  rw [objection_eq_none, checkedFor, if_pos hl]

theorem objection_eq_none_of_not_longer (hl : ¬ f.issueTypes.length < xs.length) :
    f.objection m xs = none ↔ Compatible (f.catalog m) f.fields xs := by
  rw [objection_eq_none, checkedFor, if_neg hl]

theorem same_verdict_of_lengths (h : ∀ id, id ∈ xs ↔ id ∈ ys)
    (hl : f.issueTypes.length < xs.length ↔ f.issueTypes.length < ys.length) :
    f.objection m xs = none ↔ f.objection m ys = none := by
  by_cases hx : f.issueTypes.length < xs.length
  · rw [objection_eq_none_of_longer hx, objection_eq_none_of_longer (hl.mp hx)]
    exact compatible_congr (mem_added_congr h)
  · rw [objection_eq_none_of_not_longer hx, objection_eq_none_of_not_longer (mt hl.mpr hx)]
    exact compatible_congr h

theorem same_verdict_iff (h : ∀ id, id ∈ xs ↔ id ∈ ys) (hx : f.issueTypes.length < xs.length)
    (hy : ¬ f.issueTypes.length < ys.length) :
    (f.objection m xs = none ↔ f.objection m ys = none) ↔ ¬ SplitVerdict m f xs ys := by
  rw [objection_eq_none_of_longer hx, objection_eq_none_of_not_longer hy, ← compatible_congr h,
    compatible_iff_added_and_retained f.issueTypes xs]
  constructor
  · intro hiff hs
    exact hs.retained (hiff.mp hs.added).2
  · intro hs
    refine ⟨fun ha => ⟨ha, ?_⟩, And.left⟩
    by_contra hr
    exact hs ⟨fun hl => hy (hl.mp hx), ha, hr⟩

theorem SplitVerdict.symm (h : ∀ id, id ∈ xs ↔ id ∈ ys) (hs : SplitVerdict m f xs ys) :
    SplitVerdict m f ys xs where
  lengths hl := hs.lengths hl.symm
  added := (compatible_congr (mem_added_congr h)).mp hs.added
  retained hr := hs.retained ((compatible_congr fun id => by rw [mem_retained, mem_retained, h]).mpr hr)

theorem not_splitVerdict_of_objection_eq_none (hf : f.objection m f.issueTypes = none) :
    ¬ SplitVerdict m f xs ys := by
  intro hs
  have hc := (objection_eq_none_of_not_longer (Nat.lt_irrefl _)).mp hf
  exact hs.retained (hc.of_subset fun id hid => (mem_retained.mp hid).2)

/-- Two lists that select the same issue types get the same verdict, except where their lengths send one
of them to the check of the whole and the other to the check of what is added, and the only conflict is
one of issue types that stay. So they get the same verdict if both are without repeats, and also if the
old selection is in no conflict. -/
theorem objection_sameSelection_iff (h : ∀ id, id ∈ xs ↔ id ∈ ys) :
    ((f.objection m xs = none ↔ f.objection m ys = none) ↔ ¬ SplitVerdict m f xs ys) ∧
      (xs.Nodup → ys.Nodup → (f.objection m xs = none ↔ f.objection m ys = none)) ∧
      (f.objection m f.issueTypes = none →
        (f.objection m xs = none ↔ f.objection m ys = none)) := by
  have hiff : (f.objection m xs = none ↔ f.objection m ys = none) ↔ ¬ SplitVerdict m f xs ys := by
    -- the lengths decide which check each list goes through
    by_cases hl : f.issueTypes.length < xs.length ↔ f.issueTypes.length < ys.length
    · exact iff_of_true (same_verdict_of_lengths h hl) fun hs => hs.lengths hl
    · by_cases hx : f.issueTypes.length < xs.length
      · exact same_verdict_iff h hx fun hy => hl (iff_of_true hx hy)
      · have hy : f.issueTypes.length < ys.length := by
          by_contra hy
          exact hl (iff_of_false hx hy)
        have hsymm := fun id => (h id).symm
        refine iff_comm.trans ((same_verdict_iff hsymm hy hx).trans ?_)
        exact not_congr ⟨SplitVerdict.symm hsymm, SplitVerdict.symm h⟩
  refine ⟨hiff, fun hx hy => ?_, fun hf => ?_⟩
  · have hlen : xs.length = ys.length := ((List.perm_ext_iff_of_nodup hx hy).mpr h).length_eq
    exact same_verdict_of_lengths h (by rw [hlen])
  · exact hiff.mpr (not_splitVerdict_of_objection_eq_none hf)

end

end Subscription

def partlyPrioritized : Metadata where
  projects := [⟨"KT", [⟨"1", "Bug", false, []⟩, ⟨"2", "Task", false, [priority]⟩]⟩]
  workflows := []
where
  priority : String × Descriptor :=
    ("priority", ⟨none, "Priority", false, ⟨SchemaType.priority, none, none, none⟩,
      some [⟨"1", some "High", none⟩]⟩)

def priorityDraft : Subscription :=
  ⟨["event_created"], ["KT"], ["1"], [⟨"priority", .includeAny, ["1"]⟩]⟩

namespace Subscription

theorem repeats_end_objection :
    (∀ id, id ∈ ["1"] ↔ id ∈ ["1", "1"]) ∧
      priorityDraft.objection (some partlyPrioritized) ["1"] =
        some "Priority does not exist for issue type(s): Bug." ∧
      priorityDraft.objection (some partlyPrioritized) ["1", "1"] = none :=
  ⟨by simp, by decide +kernel, by decide +kernel⟩

theorem priorityDraft_verdicts :
    ¬ (priorityDraft.objection (some partlyPrioritized) ["1"] = none ↔
        priorityDraft.objection (some partlyPrioritized) ["1", "1"] = none) ∧
      (priorityDraft.objection (some partlyPrioritized) ["2", "1"] = none ↔
        priorityDraft.objection (some partlyPrioritized) ["1", "2"] = none) ∧
      ({ priorityDraft with issueTypes := ["2"] }.objection (some partlyPrioritized) ["1"] = none ↔
        { priorityDraft with issueTypes := ["2"] }.objection (some partlyPrioritized) ["1", "1"] = none) := by
  have hs : SplitVerdict (some partlyPrioritized) priorityDraft ["1"] ["1", "1"] := by
    refine ⟨by decide, ?_, ?_⟩
    · exact (conflicts_configured_eq_nil _ [] _ _).mp (by decide +kernel)
    · exact mt (conflicts_configured_eq_nil _ [] _ _).mpr (by decide +kernel)
  refine ⟨fun h => (objection_sameSelection_iff (by simp)).1.mp h hs, ?_, ?_⟩
  · exact (objection_sameSelection_iff (by simp [or_comm])).2.1 (by decide) (by decide)
  · exact (objection_sameSelection_iff (by simp)).2.2 (by decide +kernel)

end Subscription

end TrackerFilter
