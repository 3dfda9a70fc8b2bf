import TrackerFilter.Text.Ranges
import TrackerFilter.Text.Width.Ranges

/-!
How many columns a text takes on the screen. The text is taken apart into clusters that are drawn as
one: a character with the marks behind it, and whatever a joiner ties to it. A joiner that begins a text
ties nothing: it is a cluster of its own, but the character behind it is not measured.
-/
namespace TrackerFilter

namespace Text

def charWidth (c : Char) : Nat :=
  if 0x20 ≤ c.toNat ∧ c.toNat < 0x7F then 1
  else if inRanges zeroWidthRanges c then 0
  else if inRanges doubleWidthRanges c then 2
  else 1

structure Cluster where
  chars : List Char
  width : Nat

def joiner : Char := '\u200D'
def emojiSelector : Char := '\uFE0F'

namespace Cluster

def add (c : Char) (k : Cluster) : Cluster := { k with chars := k.chars ++ [c] }

def widened (k : Cluster) : Cluster :=
  match k.chars with
  | base :: _ => if k.width = 1 ∧ inRanges pictureRanges base then { k with width := 2 } else k
  | [] => k

end Cluster

/-- The clusters found so far, last first, and whether a joiner waits for the next character. A joiner
waits only if there is a cluster to join to. -/
structure Clustering where
  joined : Bool
  found : List Cluster

namespace Clustering

def draw (c : Char) (s : Clustering) : Clustering :=
  match s.found with
  | [] => ⟨false, [⟨[c], 0⟩]⟩
  | k :: rest => ⟨false, k.add c :: rest⟩

def widenLast (s : Clustering) : Clustering :=
  match s.found with
  | [] => s
  | k :: rest => { s with found := k.widened :: rest }

def step (s : Clustering) (c : Char) : Clustering :=
  if s.joined then s.draw c
  else if c = joiner then { s.draw c with joined := !s.found.isEmpty }
  else if c = emojiSelector then s.widenLast.draw c
  else if charWidth c = 0 then s.draw c
  else { s with found := ⟨[c], charWidth c⟩ :: s.found }

end Clustering

def clusters (cs : List Char) : List Cluster := (cs.foldl Clustering.step ⟨false, []⟩).found.reverse

/-- A text as it is measured: a joiner with nothing before it hides the character behind it. -/
def dropHidden : List Char → List Char
  | c :: d :: rest => if c = joiner then dropHidden rest else c :: d :: rest
  | few => few

def total (widths : List Nat) : Nat := widths.foldr (· + ·) 0

def width (cs : List Char) : Nat := total ((clusters (dropHidden cs)).map Cluster.width)

end Text

end TrackerFilter
