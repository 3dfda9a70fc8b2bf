import TrackerFilter.Text.Markup

/-!
Which texts a reader of style tags takes, as far as brackets tell. A text without brackets is always read,
and a text whose first bracket begins a closing tag never is.
-/
namespace TrackerFilter

namespace Text

namespace Markup

section
variable {before name after : List Char}

theorem pieces_of_plain (h : '[' ∉ before) (n : Nat)
    (hlast : (List.replicate n '\\' ++ before).getLast? ≠ some '\\') :
    ∃ found : List (List Char),
      pieces (.plain n) (before ++ after) = found.map .plain ++ pieces (.plain 0) after := by
  induction before generalizing n with
  | nil =>
    cases n with
    | zero => exact ⟨[], rfl⟩
    | succ n => simp [List.replicate_succ'] at hlast
  | cons c rest ih =>
    rw [List.mem_cons, not_or] at h
    obtain ⟨hc, hrest⟩ := h
    by_cases hslash : c = '\\'
    · obtain ⟨found, hfound⟩ := ih hrest (n + 1) (by simpa [hslash, List.replicate_succ'] using hlast)
      exact ⟨found, by simpa [pieces, step, stepPlain, hslash] using hfound⟩
    · obtain ⟨found, hfound⟩ := ih hrest 0 (by
        cases rest <;> simp_all)
      refine ⟨(List.replicate n '\\' ++ [c]) :: found, ?_⟩
      simpa [pieces, step, stepPlain, hslash, Ne.symm hc] using hfound

theorem pieces_of_notMem {cs : List Char} (h : '[' ∉ cs) (n : Nat) :
    ∃ found : List (List Char), pieces (.plain n) cs = found.map .plain := by
  induction cs generalizing n with
  | nil => exact ⟨[List.replicate n '\\'], rfl⟩
  | cons c rest ih =>
    rw [List.mem_cons, not_or] at h
    obtain ⟨hc, hrest⟩ := h
    by_cases hslash : c = '\\'
    · obtain ⟨found, hfound⟩ := ih hrest (n + 1)
      exact ⟨found, by simpa [pieces, step, stepPlain, hslash] using hfound⟩
    · obtain ⟨found, hfound⟩ := ih hrest 0
      refine ⟨(List.replicate n '\\' ++ [c]) :: found, ?_⟩
      simpa [pieces, step, stepPlain, hslash, Ne.symm hc] using hfound

theorem pieces_of_tag (hopen : '[' ∉ name) (hclose : ']' ∉ name) (n : Nat) (content : List Char) :
    pieces (.tag n content) (name ++ ']' :: after) =
      .tag n (content.reverse ++ name) :: pieces (.plain 0) after := by
  induction name generalizing content with
  | nil => simp [pieces, step]
  | cons c rest ih =>
    rw [List.mem_cons, not_or] at hopen hclose
    simpa [pieces, step, Ne.symm hopen.1, Ne.symm hclose.1] using ih hopen.2 hclose.2 (c :: content)

theorem run_plain (position : Nat) (opened : List OpenTag) (waiting : List Char)
    (found : List (List Char)) (ps : List Piece) :
    ∃ behind gathered, run position opened waiting (found.map .plain ++ ps) = run behind opened gathered ps := by
  induction found generalizing position waiting with
  | nil => exact ⟨position, waiting, rfl⟩
  | cons cs rest ih => exact ih _ _

theorem closed_nil (content : List Char) (position : Nat) :
    ∃ crash, closed content position [] = .error crash := by
  by_cases hname : (closingName content).isEmpty
  · exact ⟨nothingToClose position, by simp only [closed, if_pos hname]; rfl⟩
  · cases hstyle : Style.normal (String.ofList (closingName content)) with
    | error crash => exact ⟨crash, by simp only [closed, if_neg hname, hstyle]; rfl⟩
    | ok style => exact ⟨nothingOpen content position, by simp only [closed, if_neg hname, hstyle]; rfl⟩

theorem run_closing (position : Nat) (waiting : List Char) (rest : List Piece) :
    ∃ crash, run position [] waiting (.tag 0 ('/' :: name) :: rest) = .error crash := by
  obtain ⟨crash, hcrash⟩ := closed_nil ('/' :: name) position
  exact ⟨crash, by simp [run, follow, close, hcrash, bind, Except.bind]⟩

end

end Markup

/-- The first bracket begins a closing tag. -/
def BeginsClosing (text : String) : Prop :=
  ∃ before name after, text.toList = before ++ '[' :: '/' :: (name ++ ']' :: after) ∧
    '[' ∉ before ∧ before.getLast? ≠ some '\\' ∧ '[' ∉ name ∧ ']' ∉ name

section
variable {text : String}

theorem unstyled_of_notMem (h : '[' ∉ text.toList) : ∃ shown, unstyled text = .ok shown := by
  obtain ⟨found, hfound⟩ := Markup.pieces_of_notMem h 0
  obtain ⟨behind, gathered, hrun⟩ := Markup.run_plain 0 [] [] found []
  rw [List.append_nil] at hrun
  exact ⟨_, by rw [unstyled, hfound, hrun, Markup.run]⟩

theorem unstyled_of_beginsClosing (h : BeginsClosing text) : ∃ crash, unstyled text = .error crash := by
  obtain ⟨before, name, after, htext, hbefore, hlast, hopen, hclose⟩ := h
  obtain ⟨found, hfound⟩ := Markup.pieces_of_plain hbefore 0 hlast
  have htag : Markup.pieces (.plain 0) ('[' :: '/' :: (name ++ ']' :: after)) =
      .tag 0 ('/' :: name) :: Markup.pieces (.plain 0) after := by
    simpa [Markup.pieces, Markup.step, Markup.stepPlain, Markup.opensTag] using
      Markup.pieces_of_tag hopen hclose 0 ['/']
  obtain ⟨behind, gathered, hrun⟩ := Markup.run_plain 0 [] [] found
    (.tag 0 ('/' :: name) :: Markup.pieces (.plain 0) after)
  rw [unstyled, htext, hfound, htag, hrun]
  exact Markup.run_closing behind gathered _

end

end Text

end TrackerFilter
