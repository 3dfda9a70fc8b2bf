/-!
Patterns of text, which are followed from a place to the right. Where a pattern leaves a choice, the first
way that lets all of it be followed is taken, and a pattern can mark the stretches that its parts take.
-/
namespace TrackerFilter

namespace Text

inductive Pattern where
  /-- One character of a class. -/
  | one (p : Char → Bool)
  /-- No character, between two neighbours that are as told; none stands before the start or behind the
  end. -/
  | between (p : Option Char → Option Char → Bool)
  | inOrder (first second : Pattern)
  | either (first second : Pattern)
  /-- As often as possible or as seldom as possible. -/
  | repeated (least : Nat) (most : Option Nat) (often : Bool) (p : Pattern)
  | marked (p : Pattern)

structure Stretch where
  first : Nat
  last : Nat
  deriving DecidableEq

/-- A place in a text: what stands before and behind it, and the stretches marked on the way. -/
structure Place where
  index : Nat
  before : Option Char
  rest : List Char
  found : List Stretch

namespace Pattern

abbrev Way := (Place → Option Place) → Place → Option Place

def exactly (step : Way) (goOn : Place → Option Place) : Nat → Place → Option Place
  | 0, s => goOn s
  | n + 1, s => step (exactly step goOn n) s

def upTo (step : Way) (often : Bool) (goOn : Place → Option Place) : Nat → Place → Option Place
  | 0, s => goOn s
  | n + 1, s =>
    if often then step (upTo step often goOn n) s <|> goOn s
    else goOn s <|> step (upTo step often goOn n) s

/-- The place that is reached in the end. A repetition without bound ends with the text, as each round
takes a character. -/
def follow : Pattern → Way
  | one p, goOn, s =>
    match s.rest with
    | [] => none
    | c :: rest => if p c then goOn ⟨s.index + 1, some c, rest, s.found⟩ else none
  | between p, goOn, s => if p s.before s.rest.head? then goOn s else none
  | inOrder first second, goOn, s => follow first (follow second goOn) s
  | either first second, goOn, s => follow first goOn s <|> follow second goOn s
  | repeated least most often p, goOn, s =>
    exactly (follow p) (fun t => upTo (follow p) often goOn ((most.getD (least + t.rest.length)) - least) t)
      least s
  | marked p, goOn, s => follow p (fun t => goOn { t with found := ⟨s.index, t.index⟩ :: t.found }) s

def sequence (ps : List Pattern) : Pattern := ps.foldr inOrder (between fun _ _ => true)

def choice (ps : List Pattern) : Pattern := ps.foldr either (between fun _ _ => false)

def char (c : Char) : Pattern := one (· == c)

def literal (s : String) : Pattern := sequence (s.toList.map char)

def optional (p : Pattern) : Pattern := repeated 0 (some 1) true p

def times (n : Nat) (p : Pattern) : Pattern := repeated n (some n) true p

def fewer (n : Nat) (p : Pattern) : Pattern := repeated 1 (some n) true p

def many (p : Pattern) : Pattern := repeated 0 none true p

def several (p : Pattern) : Pattern := repeated 1 none true p

/-- The stretches that are marked in a text, where the search goes on behind each match. -/
def search (p : Pattern) : Nat → Place → List Stretch
  | 0, _ => []
  | steps + 1, s =>
    match s.rest with
    | [] => []
    | c :: rest =>
      match follow p some ⟨s.index, s.before, s.rest, []⟩ with
      | some t =>
        if s.index < t.index then t.found ++ search p steps t
        else search p steps ⟨s.index + 1, some c, rest, []⟩
      | none => search p steps ⟨s.index + 1, some c, rest, []⟩

def stretches (p : Pattern) (cs : List Char) : List Stretch :=
  (search p cs.length ⟨0, none, cs, []⟩).filter fun m => m.first < m.last

end Pattern

end Text

end TrackerFilter
