import TrackerFilter.Text.Wrap

/-!
Texts that are printed as they are. Nothing of such a text is taken for the name of an emoji, moves the
cursor or ends the line, so that it is a line of its own where lines are not wrapped.
-/
namespace TrackerFilter

namespace Text

def isStill (c : Char) : Bool := c != '\t' && c != '\n' && !movesCursor c

/-- A blank follows every colon, so that none begins the name of an emoji. -/
def isLoose : List Char → Bool
  | c :: d :: rest => (c != ':' || isBlank d) && isLoose (d :: rest)
  | _ => true

structure IsVerbatim (text : String) : Prop where
  loose : isLoose text.toList = true
  still : ∀ c ∈ text.toList, isStill c = true

theorem isLoose_append_colon {cs : List Char} (h : ':' ∉ cs) (rest : List Char) :
    isLoose (cs ++ ':' :: ' ' :: rest) = isLoose (' ' :: rest) := by
  have hblank : isBlank ' ' = true := by decide
  induction cs with
  | nil => simp [isLoose, hblank]
  | cons c cs ih =>
    rw [List.mem_cons, not_or] at h
    have hc : (c != ':') = true := bne_iff_ne.mpr (Ne.symm h.1)
    rw [← ih h.2]
    cases cs <;> simp [isLoose, hc]

theorem isLoose_blank_cons (cs : List Char) : isLoose (' ' :: cs) = isLoose cs := by
  cases cs with
  | nil => rfl
  | cons c rest => simp [isLoose]

theorem isVerbatim_labelled {label content : String} (hl : ':' ∉ label.toList)
    (hlabel : ∀ c ∈ label.toList, isStill c = true) (h : IsVerbatim content) :
    IsVerbatim (label ++ ": " ++ content) := by
  have htext : (label ++ ": " ++ content).toList = label.toList ++ ':' :: ' ' :: content.toList := by
    simp
  refine ⟨?_, ?_⟩
  · rw [htext, isLoose_append_colon hl, isLoose_blank_cons]
    exact h.loose
  · intro c hm
    rw [htext, List.mem_append, List.mem_cons, List.mem_cons] at hm
    rcases hm with hm | rfl | rfl | hm
    · exact hlabel c hm
    · decide
    · decide
    · exact h.still c hm

theorem Emoji.substitute_of_isLoose {cs : List Char} (h : isLoose cs = true) : substitute cs = cs := by
  induction cs with
  | nil => rfl
  | cons c rest ih =>
    cases rest with
    | nil => by_cases hc : c = ':' <;> simp [substitute, scan, hc]
    | cons d rest =>
      rw [isLoose, Bool.and_eq_true, Bool.or_eq_true, bne_iff_ne] at h
      have hrest : scan none (d :: rest) = d :: rest := ih h.2
      by_cases hc : c = ':'
      · have hblank : isBlank d = true := h.1.resolve_left fun hne => hne hc
        have hd : d ≠ ':' := by
          rintro rfl
          exact absurd hblank (by decide)
        simp only [scan, hd, if_false, List.cons.injEq, true_and] at hrest
        simp [substitute, scan, hc, hd, hblank, hrest]
      · simpa [substitute, scan, hc] using hrest

section
variable {text : String}

theorem IsVerbatim.displayed_eq (h : IsVerbatim text) : displayed text = text.toList := by
  rw [displayed, Emoji.substitute_of_isLoose h.loose, withoutMoves, List.filter_eq_self]
  intro c hc
  have hstill := h.still c hc
  simp only [isStill, Bool.and_eq_true] at hstill
  exact hstill.2

theorem IsVerbatim.notMem (h : IsVerbatim text) {c : Char} (hc : isStill c = false) : c ∉ text.toList :=
  fun hm => absurd (h.still c hm) (by simp [hc])

theorem Row.chars_plain (cs : List Char) : (Row.plain cs).chars = cs := by
  rw [Row.chars, Row.plain, List.map_map]
  exact List.map_id cs

theorem expandTabs_of_notMem {row : Row} (h : '\t' ∉ row.chars) (since : List Char) :
    expandTabs since row = row := by
  induction row generalizing since with
  | nil => rfl
  | cons g rest ih =>
    rw [Row.chars, List.map_cons, List.mem_cons, not_or] at h
    rw [expandTabs, if_neg fun e => h.1 e.symm, ih h.2]

theorem splitOnP_newline_of_notMem {row : Row} (h : '\n' ∉ row.chars) :
    row.splitOnP (fun g => g.char = '\n') = [row] := by
  refine List.splitOnP_eq_singleton fun g hg => decide_eq_false fun e => ?_
  exact h (e ▸ List.mem_map_of_mem hg)

theorem unwrapped_of_isVerbatim (h : IsVerbatim text) : unwrapped text = [text] := by
  have hline : '\n' ∉ (Row.plain text.toList).chars := by
    rw [Row.chars_plain]
    exact h.notMem (by decide)
  have htab : '\t' ∉ (Row.plain text.toList).chars := by
    rw [Row.chars_plain]
    exact h.notMem (by decide)
  rw [unwrapped, h.displayed_eq, splitOnP_newline_of_notMem hline, List.map_singleton,
    expandTabs_of_notMem htab, Row.chars_plain, String.ofList_toList]

end

end Text

end TrackerFilter
