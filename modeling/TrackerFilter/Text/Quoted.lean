import TrackerFilter.Text.Blank

/-!
Texts between double quotes. A backslash stands before each quote and each backslash of the text, so
that the closing quote is the first one without a backslash.
-/
namespace TrackerFilter

namespace Text

def escape : List Char → List Char
  | [] => []
  | c :: rest => if c = '\\' ∨ c = '"' then '\\' :: c :: escape rest else c :: escape rest

/-- Takes the character after a backslash as it is; refuses a bare quote and a backslash at the end. -/
def unescape : List Char → Option (List Char)
  | [] => some []
  | '\\' :: c :: rest => (unescape rest).map (c :: ·)
  | c :: rest => if c = '\\' ∨ c = '"' then none else (unescape rest).map (c :: ·)

def quoted (text : String) : String := String.ofList ('"' :: escape text.toList ++ ['"'])

def needsQuotes (text : String) : Bool := text.toList.any fun c => isBlank c || c == '"'

def quotedIfNeeded (text : String) : String := if needsQuotes text then quoted text else text

theorem unescape_escape (s : List Char) : unescape (escape s) = some s := by
  induction s with
  | nil => rfl
  | cons c rest ih =>
    by_cases h : c = '\\' ∨ c = '"'
    · simp [escape, h, unescape, ih]
    · have hb : c ≠ '\\' := fun e => h (.inl e)
      rw [escape, if_neg h, unescape, if_neg h, ih, Option.map_some]
      exact fun _ _ e => absurd e hb

end Text

end TrackerFilter
