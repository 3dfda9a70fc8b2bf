import TrackerFilter.Text.Quoted

/-!
Written values that tell where they end: whatever follows, the value and what follows are read off the
text in one way. Quoted texts do so by themselves, words before a blank, and from values that do so
the sequences of such values with separators between them.
-/
namespace TrackerFilter

namespace Text

/-- Before texts of the kind `next`, values of the kind `p` are read off their written form. -/
def Delimited {α : Type} (p : α → Prop) (next : List Char → Prop) (write : α → List Char) : Prop :=
  ∀ ⦃a b : α⦄ ⦃x y : List Char⦄, p a → p b → next x → next y →
    write a ++ x = write b ++ y → a = b ∧ x = y

def BeforeBlank (x : List Char) : Prop := ∃ y, x = ' ' :: y

theorem append_stop_inj {stop : Char} {s t x y : List Char} (hs : stop ∉ s) (ht : stop ∉ t)
    (h : s ++ stop :: x = t ++ stop :: y) : s = t ∧ x = y := by
  induction s generalizing t with
  | nil =>
    cases t with
    | nil => simpa using h
    | cons d t =>
      simp only [List.nil_append, List.cons_append, List.cons.injEq] at h
      exact absurd (h.1 ▸ List.mem_cons_self) ht
  | cons c s ih =>
    cases t with
    | nil =>
      simp only [List.nil_append, List.cons_append, List.cons.injEq] at h
      exact absurd (h.1 ▸ List.mem_cons_self) hs
    | cons d t =>
      simp only [List.cons_append, List.cons.injEq] at h
      obtain ⟨rfl, h⟩ := h
      obtain ⟨rfl, hxy⟩ := ih (mt (List.mem_cons_of_mem c) hs) (mt (List.mem_cons_of_mem c) ht) h
      exact ⟨rfl, hxy⟩

theorem escape_cons_append_ne (c : Char) (s x y : List Char) :
    escape (c :: s) ++ x ≠ '"' :: y := by
  intro h
  by_cases hc : c = '\\' ∨ c = '"'
  · simp only [escape, if_pos hc, List.cons_append, List.cons.injEq] at h
    exact absurd h.1 (by decide)
  · simp only [escape, if_neg hc, List.cons_append, List.cons.injEq] at h
    exact hc (.inr h.1)

theorem escape_append_inj {s t x y : List Char} (h : escape s ++ '"' :: x = escape t ++ '"' :: y) :
    s = t ∧ x = y := by
  induction s generalizing t with
  | nil =>
    cases t with
    | nil => simpa [escape] using h
    | cons d t => exact absurd h.symm (escape_cons_append_ne d t _ x)
  | cons c s ih =>
    cases t with
    | nil => exact absurd h (escape_cons_append_ne c s _ y)
    | cons d t =>
      have hcd : c = d ∧ escape s ++ '"' :: x = escape t ++ '"' :: y := by
        by_cases hc : c = '\\' ∨ c = '"' <;> by_cases hd : d = '\\' ∨ d = '"'
        · simpa [escape, hc, hd] using h
        · simp only [escape, if_pos hc, if_neg hd, List.cons_append, List.cons.injEq] at h
          exact absurd (.inl h.1.symm) hd
        · simp only [escape, if_neg hc, if_pos hd, List.cons_append, List.cons.injEq] at h
          exact absurd (.inl h.1) hc
        · simpa [escape, hc, hd] using h
      obtain ⟨rfl, hxy⟩ := ih hcd.2
      exact ⟨by rw [hcd.1], hxy⟩

theorem delimited_quoted : Delimited (fun _ => True) (fun _ => True) fun s => (quoted s).toList := by
  intro s t x y _ _ _ _ h
  simp only [quoted, String.toList_ofList, List.cons_append, List.append_assoc, List.cons.injEq,
    true_and, List.nil_append] at h
  obtain ⟨hst, hxy⟩ := escape_append_inj h
  exact ⟨String.toList_injective hst, hxy⟩

theorem delimited_word : Delimited (fun s : String => ' ' ∉ s.toList) BeforeBlank String.toList := by
  intro s t x y hs ht hx hy h
  obtain ⟨x, rfl⟩ := hx
  obtain ⟨y, rfl⟩ := hy
  obtain ⟨hst, rfl⟩ := append_stop_inj hs ht h
  exact ⟨String.toList_injective hst, rfl⟩

theorem notMem_of_bare {s : String} (h : needsQuotes s = false) : ' ' ∉ s.toList ∧ '"' ∉ s.toList := by
  have hall : ∀ c ∈ s.toList, (isBlank c || c == '"') = false := by
    simpa [needsQuotes] using h
  exact ⟨fun hm => absurd (hall _ hm) (by decide), fun hm => absurd (hall _ hm) (by decide)⟩

theorem bare_append_ne_quoted {s t : String} {x y : List Char} (hs : needsQuotes s = false)
    (hx : BeforeBlank x) : s.toList ++ x ≠ (quoted t).toList ++ y := by
  intro h
  obtain ⟨x, rfl⟩ := hx
  have hq := (notMem_of_bare hs).2
  cases hl : s.toList with
  | nil => simp [hl, quoted] at h
  | cons c rest =>
    simp only [hl, quoted, String.toList_ofList, List.cons_append, List.cons.injEq] at h
    exact hq (hl ▸ h.1 ▸ List.mem_cons_self)

theorem delimited_quotedIfNeeded :
    Delimited (fun _ => True) BeforeBlank fun s => (quotedIfNeeded s).toList := by
  intro s t x y _ _ hx hy h
  cases hs : needsQuotes s <;> cases ht : needsQuotes t <;>
    simp only [quotedIfNeeded, hs, ht, Bool.false_eq_true, if_true, if_false] at h
  · exact delimited_word (notMem_of_bare hs).1 (notMem_of_bare ht).1 hx hy h
  · exact absurd h (bare_append_ne_quoted hs hx)
  · exact absurd h.symm (bare_append_ne_quoted ht hy)
  · exact delimited_quoted trivial trivial trivial trivial h

theorem Delimited.separated {α : Type} {p : α → Prop} {next : List Char → Prop}
    {write : α → List Char} (h : Delimited p next write) (sep stop : List Char)
    (hsep : ∀ x, next (sep ++ x)) (hstop : ∀ x, next (stop ++ x))
    (hne : ∀ x y, sep ++ x ≠ stop ++ y) :
    Delimited (fun as : List α => ∀ a ∈ as, p a) (fun _ => True)
      fun as => as.flatMap (fun a => sep ++ write a) ++ stop := by
  have hnext : ∀ (as : List α) (x : List Char),
      next (as.flatMap (fun a => sep ++ write a) ++ stop ++ x) := by
    intro as x
    cases as with
    | nil => simpa using hstop x
    | cons a as => simpa using hsep _
  intro as bs x y has hbs _ _ he
  -- separator and stop tell whether there is another value, so both lists end together
  induction as generalizing bs with
  | nil =>
    cases bs with
    | nil => simpa using he
    | cons b bs =>
      simp only [List.flatMap_nil, List.nil_append, List.flatMap_cons, List.append_assoc] at he
      exact absurd he.symm (hne _ _)
  | cons a as ih =>
    cases bs with
    | nil =>
      simp only [List.flatMap_nil, List.nil_append, List.flatMap_cons, List.append_assoc] at he
      exact absurd he (hne _ _)
    | cons b bs =>
      have he' : write a ++ (as.flatMap (fun a => sep ++ write a) ++ stop ++ x) =
          write b ++ (bs.flatMap (fun a => sep ++ write a) ++ stop ++ y) := by
        simpa using he
      obtain ⟨rfl, hrest⟩ := h (has a List.mem_cons_self) (hbs b List.mem_cons_self)
        (hnext as x) (hnext bs y) he'
      obtain ⟨rfl, hxy⟩ := ih (fun c hc => has c (List.mem_cons_of_mem a hc))
        (fun c hc => hbs c (List.mem_cons_of_mem a hc)) hrest
      exact ⟨rfl, hxy⟩

theorem toList_intercalate_cons (sep c : String) (cs : List String) :
    (sep.intercalate (c :: cs)).toList = c.toList ++ cs.flatMap fun d => sep.toList ++ d.toList := by
  induction cs generalizing c with
  | nil => simp
  | cons d ds ih =>
    rw [String.intercalate_cons_cons, String.toList_append, String.toList_append, ih d]
    simp

end Text

end TrackerFilter
