import TrackerFilter.Proofs.Query.Conditions

/-!
Reading a query. Project, issue types and conditions are read off the text of a query again, whatever
the values say: a value may hold quotes, commas, parentheses and the separator itself.
-/
namespace TrackerFilter

namespace Query

theorem toList_valueList_cons (v : String) (vs : List String) :
    (valueList (v :: vs)).toList = '(' :: ((Text.quoted v).toList ++
      (vs.flatMap (fun u => [','] ++ (Text.quoted u).toList) ++ [')'])) := by
  rw [valueList, String.toList_append, String.toList_append, List.map_cons,
    Text.toList_intercalate_cons, List.flatMap_map]
  simp

theorem delimited_valueList :
    Text.Delimited (fun _ => True) (fun _ => True) fun vs => (valueList vs).toList := by
  have hrest := Text.delimited_quoted.separated [','] [')'] (fun _ => trivial) (fun _ => trivial)
    (by simp)
  intro vs ws x y _ _ _ _ h
  -- behind the opening parenthesis an empty list closes, and any other has a quote
  cases vs with
  | nil =>
    cases ws with
    | nil => simpa [valueList] using h
    | cons w ws => simp [valueList, Text.quoted] at h
  | cons v vs =>
    cases ws with
    | nil => simp [valueList, Text.quoted] at h
    | cons w ws =>
      simp only [toList_valueList_cons, List.cons_append, List.cons.injEq, true_and,
        List.append_assoc (Text.quoted _).toList] at h
      obtain ⟨rfl, hvs⟩ := Text.delimited_quoted trivial trivial trivial trivial h
      obtain ⟨rfl, hxy⟩ := hrest (fun _ _ => trivial) (fun _ _ => trivial) trivial trivial hvs
      exact ⟨rfl, hxy⟩

theorem delimited_relation :
    Text.Delimited (fun _ => True) Text.BeforeBlank fun r => (Relation.text r).toList := by
  intro r s x y _ _ hx hy h
  cases r with
  | among vs =>
    cases s with
    | among ws =>
      simp only [Relation.text, String.toList_append, List.append_assoc, List.append_right_inj] at h
      obtain ⟨rfl, hxy⟩ := delimited_valueList trivial trivial trivial trivial h
      exact ⟨rfl, hxy⟩
    | outside | isEmpty | equals => simp [Relation.text] at h
  | outside vs =>
    cases s with
    | outside ws =>
      simp only [Relation.text, String.toList_append, List.append_assoc, List.append_right_inj] at h
      obtain ⟨rfl, hxy⟩ := delimited_valueList trivial trivial trivial trivial h
      exact ⟨rfl, hxy⟩
    | among | isEmpty | equals => simp [Relation.text] at h
  | isEmpty =>
    cases s with
    | isEmpty => exact ⟨rfl, by simpa [Relation.text] using h⟩
    | among | outside | equals => simp [Relation.text] at h
  | equals v =>
    cases s with
    | equals w =>
      simp only [Relation.text, String.toList_append, List.append_assoc, List.append_right_inj] at h
      obtain ⟨rfl, hxy⟩ := Text.delimited_quotedIfNeeded trivial trivial hx hy h
      exact ⟨rfl, hxy⟩
    | among | outside | isEmpty => simp [Relation.text] at h

theorem delimited_condition :
    Text.Delimited (fun c : Condition => ' ' ∉ c.key.toList) Text.BeforeBlank
      fun c => c.text.toList := by
  intro c d x y hc hd hx hy h
  simp only [Condition.text, String.toList_append, List.append_assoc] at h
  obtain ⟨hk, hrest⟩ := Text.append_stop_inj hc hd h
  obtain ⟨hr, hxy⟩ := delimited_relation trivial trivial hx hy hrest
  obtain ⟨k, r⟩ := c
  obtain ⟨l, s⟩ := d
  exact ⟨by rw [Condition.mk.injEq]; exact ⟨String.toList_injective hk, hr⟩, hxy⟩

def Clause.IsLegible : Clause → Prop
  | issueTypes ids => ids ≠ [] ∧ ∀ id ∈ ids, ',' ∉ id.toList ∧ ')' ∉ id.toList
  | condition c => ' ' ∉ c.key.toList

theorem stop_notMem_intercalate {ids : List String}
    (h : ∀ id ∈ ids, ',' ∉ id.toList ∧ ')' ∉ id.toList) : ')' ∉ (",".intercalate ids).toList := by
  cases ids with
  | nil => simp
  | cons id rest =>
    rw [Text.toList_intercalate_cons, List.mem_append, List.mem_flatMap, not_or]
    refine ⟨(h id List.mem_cons_self).2, ?_⟩
    rintro ⟨d, hd, hm⟩
    have hdm : ')' ∈ d.toList := by simpa using hm
    exact (h d (List.mem_cons_of_mem id hd)).2 hdm

theorem intercalate_inj {ids js : List String} (hi : Clause.IsLegible (.issueTypes ids))
    (hj : Clause.IsLegible (.issueTypes js))
    (h : (",".intercalate ids).toList = (",".intercalate js).toList) : ids = js := by
  have hsplit : ∀ {ks : List String}, Clause.IsLegible (.issueTypes ks) →
      List.splitOn ',' (",".intercalate ks).toList = ks.map String.toList := by
    intro ks hk
    have hcomma : ",".toList = [','] := by simp
    rw [String.toList_intercalate, hcomma]
    refine List.splitOn_intercalate ',' ?_ (by simpa using hk.1)
    intro l hl
    obtain ⟨k, hkm, rfl⟩ := List.mem_map.mp hl
    exact (hk.2 k hkm).1
  have hmap : ids.map String.toList = js.map String.toList := by
    rw [← hsplit hi, ← hsplit hj, h]
  exact List.map_injective_iff.mpr (fun _ _ => String.toList_injective) hmap

theorem delimited_clause :
    Text.Delimited Clause.IsLegible Text.BeforeBlank fun c => c.text.toList := by
  -- a condition on a field called issuetype has its operator in lower case
  have hmixed : ∀ (ids : List String) (c : Condition) (x y : List Char),
      Clause.IsLegible (.condition c) →
        (Clause.issueTypes ids).text.toList ++ x ≠ (Clause.condition c).text.toList ++ y := by
    intro ids c x y hc h
    have hk : ' ' ∉ "issuetype".toList := by decide
    have h' : "issuetype".toList ++ ' ' :: ("IN (".toList ++ ((",".intercalate ids).toList ++
        (')' :: x))) = c.key.toList ++ ' ' :: (c.relation.text.toList ++ y) := by
      simpa [Condition.text] using h
    have hrel := (Text.append_stop_inj hk hc h').2
    cases hr : c.relation <;> simp [hr, Relation.text] at hrel
  intro c d x y hc hd hx hy h
  cases c with
  | issueTypes ids =>
    cases d with
    | issueTypes js =>
      simp only [Clause.text_issueTypes, String.toList_append, List.append_assoc,
        List.append_right_inj] at h
      obtain ⟨hij, hxy⟩ := Text.append_stop_inj (stop_notMem_intercalate hc.2)
        (stop_notMem_intercalate hd.2) h
      exact ⟨by rw [intercalate_inj hc hd hij], hxy⟩
    | condition d => exact absurd h (hmixed ids d x y hd)
  | condition c =>
    cases d with
    | issueTypes js => exact absurd h.symm (hmixed js c y x hc)
    | condition d =>
      obtain ⟨rfl, hxy⟩ := delimited_condition hc hd hx hy h
      exact ⟨rfl, hxy⟩

theorem beforeBlank_clauses (cs : List Clause) :
    Text.BeforeBlank (cs.flatMap (fun c => separator ++ c.text.toList) ++ closing) := by
  cases cs with
  | nil => exact ⟨_, rfl⟩
  | cons c cs => exact ⟨_, rfl⟩

theorem delimited_clauses :
    Text.Delimited (fun cs : List Clause => ∀ c ∈ cs, c.IsLegible) (fun _ => True)
      fun cs => cs.flatMap (fun c => separator ++ c.text.toList) ++ closing :=
  delimited_clause.separated separator closing (fun _ => ⟨_, rfl⟩) (fun _ => ⟨_, rfl⟩)
    separator_append_ne_closing

theorem key_of_mem_conditions {v : FieldFilter} {c : Condition} (h : c ∈ v.conditions) :
    c.key = v.key := by
  cases hi : v.inclusion with
  | includeAll =>
    obtain ⟨w, -, rfl⟩ : ∃ w ∈ v.values, ⟨v.key, .equals w⟩ = c := by
      simpa [FieldFilter.conditions, hi] using h
    rfl
  | empty | includeAny | excludeAny =>
    simp only [FieldFilter.conditions, hi, List.mem_singleton] at h
    rw [h]

theorem clauses_inj {f g : Subscription} (h : f.clauses = g.clauses) :
    f.issueTypes = g.issueTypes ∧ f.conditions = g.conditions := by
  have hinj : Function.Injective (List.map Clause.condition) :=
    List.map_injective_iff.mpr fun _ _ => Clause.condition.inj
  -- the first clause tells whether there are issue types
  have hmixed : ∀ ids (cs ds : List Condition),
      [Clause.issueTypes ids] ++ ds.map Clause.condition ≠ cs.map Clause.condition := by
    intro ids cs ds h
    cases cs with
    | nil => simp at h
    | cons c cs => simp at h
  unfold Subscription.clauses at h
  by_cases hf : f.issueTypes = [] <;> by_cases hg : g.issueTypes = []
  · rw [if_pos hf, if_pos hg] at h
    exact ⟨hf.trans hg.symm, hinj h⟩
  · rw [if_pos hf, if_neg hg] at h
    exact absurd h.symm (hmixed _ _ _)
  · rw [if_neg hf, if_pos hg] at h
    exact absurd h (hmixed _ _ _)
  · rw [if_neg hf, if_neg hg] at h
    obtain ⟨hi, hc⟩ := List.cons.inj h
    exact ⟨Clause.issueTypes.inj hi, hinj hc⟩

/-- No blank ends the project or a key, no comma or parenthesis an issue type, and no filter waits for its
values. Nothing is asked of the values themselves. -/
structure Readable (f : Subscription) : Prop where
  project : ∃ key, f.projectKey = some key ∧ key ≠ "" ∧ ' ' ∉ key.toList
  issueTypes : ∀ id ∈ f.issueTypes, ',' ∉ id.toList ∧ ')' ∉ id.toList
  keys : ∀ v ∈ f.fields, ' ' ∉ v.key.toList
  valued : ∀ v ∈ f.fields, v.IsValued

theorem Readable.isLegible {f : Subscription} (h : Readable f) : ∀ c ∈ f.clauses, c.IsLegible := by
  intro c hc
  rcases List.mem_append.mp hc with ht | hm
  · by_cases hi : f.issueTypes = []
    · simp [hi] at ht
    · obtain rfl : c = .issueTypes f.issueTypes := by simpa [hi] using ht
      exact ⟨hi, h.issueTypes⟩
  · obtain ⟨d, hd, rfl⟩ := List.mem_map.mp hm
    obtain ⟨v, hv, hdv⟩ := List.mem_flatMap.mp hd
    show ' ' ∉ d.key.toList
    rw [key_of_mem_conditions hdv]
    exact h.keys v hv

/-- Two queries are the same text just when they have the same project, issue types and conditions. -/
theorem render_eq_iff {f g : Subscription} (hf : Readable f) (hg : Readable g) :
    render f = render g ↔
      f.projectKey = g.projectKey ∧ f.issueTypes = g.issueTypes ∧ f.conditions = g.conditions := by
  obtain ⟨k, hk, hkne, hkw⟩ := hf.project
  obtain ⟨l, hl, hlne, hlw⟩ := hg.project
  have hrf := toList_render hk hkne hf.valued
  have hrg := toList_render hl hlne hg.valued
  constructor
  · intro h
    rw [h, hrg, List.append_right_inj] at hrf
    obtain ⟨rfl, hrest⟩ := Text.delimited_word hlw hkw (beforeBlank_clauses _) (beforeBlank_clauses _)
      hrf
    have hcs : g.clauses = f.clauses :=
      (delimited_clauses hg.isLegible hf.isLegible trivial trivial (congrArg (· ++ []) hrest)).1
    obtain ⟨hi, hc⟩ := clauses_inj hcs
    exact ⟨hk.trans hl.symm, hi.symm, hc.symm⟩
  · rintro ⟨hp, hi, hc⟩
    have hkl : k = l := Option.some.inj (hk.symm.trans (hp.trans hl))
    have hcs : f.clauses = g.clauses := by rw [Subscription.clauses, hi, hc, Subscription.clauses]
    refine String.toList_injective ?_
    rw [hrf, hrg, hkl, hcs]

def labelled (values : List (List String)) : Subscription :=
  ⟨[], ["KT"], ["1"], values.map fun vs => ⟨"labels", .includeAll, vs⟩⟩

theorem readable_labelled {values : List (List String)} (h : [] ∉ values) :
    Readable (labelled values) where
  project := ⟨"KT", rfl, by decide, by decide⟩
  issueTypes := by
    show ∀ id ∈ ["1"], ',' ∉ id.toList ∧ ')' ∉ id.toList
    decide
  keys := by
    intro v hv
    obtain ⟨vs, -, rfl⟩ := List.mem_map.mp hv
    show ' ' ∉ "labels".toList
    decide
  valued := by
    intro v hv _
    obtain ⟨vs, hvs, rfl⟩ := List.mem_map.mp hv
    exact fun hnil => h (hnil ▸ hvs)

theorem render_labelled :
    render (labelled [["a", "b"]]) = render (labelled [["a"], ["b"]]) ∧
      render (labelled [["a", "b"]]) ≠ render (labelled [["a AND labels = b"]]) := by
  have htogether : Readable (labelled [["a", "b"]]) := readable_labelled (by decide)
  have hapart : Readable (labelled [["a"], ["b"]]) := readable_labelled (by decide)
  have himitating : Readable (labelled [["a AND labels = b"]]) := readable_labelled (by decide)
  exact ⟨(render_eq_iff htogether hapart).mpr ⟨rfl, rfl, rfl⟩,
    mt (render_eq_iff htogether himitating).mp (by decide)⟩

end Query

end TrackerFilter
