import TrackerFilter.Json.Reader
import Mathlib.Data.List.TakeWhile

/-!
Integers without a break. Their digits are a single token, which stands for the integer, unless there are
more of them than are read.
-/
namespace TrackerFilter

namespace Json

section
variable {digits : List Char}

theorem isWordChar_of_isDigit {c : Char} (h : isDigit c = true) : Lexer.isWordChar c = true := by
  have hd : c.isDigit = true := by
    simp only [isDigit, Bool.and_eq_true, decide_eq_true_eq] at h
    simpa [Char.isDigit, UInt32.le_iff_toNat_le] using h
  simp [Lexer.isWordChar, Char.isAlphanum, hd]

theorem foldl_step_inWord (hd : ∀ c ∈ digits, isDigit c = true) (letters : List Char) (found : List Token) :
    digits.foldl Lexer.step ⟨.inWord letters, found⟩ = ⟨.inWord (digits.reverse ++ letters), found⟩ := by
  induction digits generalizing letters with
  | nil => rfl
  | cons c rest ih =>
    have hstep : Lexer.step ⟨.inWord letters, found⟩ c = ⟨.inWord (c :: letters), found⟩ :=
      if_pos (isWordChar_of_isDigit (hd c List.mem_cons_self))
    rw [List.foldl_cons, hstep, ih (fun d hm => hd d (List.mem_cons_of_mem c hm))]
    simp

theorem tokens_of_digits (hne : digits ≠ []) (hd : ∀ c ∈ digits, isDigit c = true) :
    tokens (String.ofList digits) = readWord digits := by
  obtain ⟨c, rest, rfl⟩ := List.exists_cons_of_ne_nil hne
  have hc := hd c List.mem_cons_self
  have hgap : Lexer.isGap c = false := by
    refine Bool.eq_false_iff.mpr fun hg => ?_
    simp only [Lexer.isGap, Bool.or_eq_true, beq_iff_eq, or_assoc] at hg
    rcases hg with rfl | rfl | rfl | rfl <;> exact absurd hc (by decide)
  have hquote : c ≠ '"' := by
    rintro rfl
    exact absurd hc (by decide)
  have hfirst : Lexer.step Lexer.start c = ⟨.inWord [c], []⟩ := by
    simp [Lexer.step, Lexer.start, Lexer.begin, hgap, hquote, isWordChar_of_isDigit hc]
  rw [tokens, String.toList_ofList, List.foldl_cons, hfirst,
    foldl_step_inWord fun d hm => hd d (List.mem_cons_of_mem c hm)]
  simp [Lexer.finish]

theorem readWord_of_digits (hne : digits ≠ []) (hd : ∀ c ∈ digits, isDigit c = true) :
    readWord digits = readNumber digits := by
  have hword : ∀ w : String, w.toList.head?.any isDigit = false → (String.ofList digits == w) = false := by
    intro w hw
    refine beq_false_of_ne fun he => ?_
    obtain ⟨c, rest, rfl⟩ := List.exists_cons_of_ne_nil hne
    rw [← he, String.toList_ofList, List.head?_cons, Option.any_some, hd c List.mem_cons_self] at hw
    exact absurd hw (by decide)
  simp only [readWord]
  rw [List.lookup_eq_none_iff.mpr]
  intro w hw
  rw [bne, Bool.not_eq_true']
  apply hword
  simp only [List.mem_cons, List.not_mem_nil, or_false] at hw
  rcases hw with rfl | rfl | rfl | rfl | rfl | rfl <;> decide

theorem readNumber_of_digits (hne : digits ≠ []) (hd : ∀ c ∈ digits, isDigit c = true)
    (hzero : digits.head? ≠ some '0') : readNumber digits = [.integer false digits] := by
  obtain ⟨c, rest, rfl⟩ := List.exists_cons_of_ne_nil hne
  have hminus : c ≠ '-' := by
    rintro rfl
    exact absurd (hd '-' List.mem_cons_self) (by decide)
  have hwhole : (c :: rest).takeWhile isDigit = c :: rest := List.takeWhile_eq_self_iff.mpr hd
  have hrest : (c :: rest).dropWhile isDigit = [] := List.dropWhile_eq_nil_iff.mpr hd
  have hc : c ≠ '0' := by simpa using hzero
  unfold readNumber
  split
  next negative cs heq =>
    split at heq
    · next h => exact absurd (List.cons.inj h).1 hminus
    · obtain ⟨rfl, rfl⟩ := Prod.mk.inj heq
      rw [hwhole, hrest]
      simp [hc, beginsTail]

theorem read_of_digits (limits : Limits) (hne : digits ≠ []) (hd : ∀ c ∈ digits, isDigit c = true)
    (hzero : digits.head? ≠ some '0') :
    read limits (String.ofList digits) =
      if limits.digits < digits.length then .error (.raised (tooLong limits.digits digits.length))
      else .ok (.int (readNat digits)) := by
  rw [read, tokens_of_digits hne hd, readWord_of_digits hne hd, readNumber_of_digits hne hd hzero]
  by_cases h : limits.digits < digits.length
  · simp [Reader.run, Reader.step, Reader.readValue, Reader.readInteger, h, Except.map]
  · simp [Reader.run, Reader.step, Reader.readValue, Reader.readInteger, h, Except.map, Reader.finish]

theorem read_replicate (limits : Limits) {n : Nat} (hn : n ≠ 0) {c : Char} (hd : isDigit c = true)
    (hzero : c ≠ '0') :
    read limits (String.ofList (List.replicate n c)) =
      if limits.digits < n then .error (.raised (tooLong limits.digits n))
      else .ok (.int (readNat (List.replicate n c))) := by
  have hdigits : ∀ d ∈ List.replicate n c, isDigit d = true := by
    intro d hm
    rw [List.eq_of_mem_replicate hm]
    exact hd
  have hread := read_of_digits limits (by simpa using hn) hdigits (by simp [List.head?_replicate, hn, hzero])
  rwa [List.length_replicate] at hread

end

end Json

end TrackerFilter
