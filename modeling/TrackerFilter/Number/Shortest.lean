import TrackerFilter.Number.Binary64

/-!
The shortest decimal that reads back as a given double: the coarsest decimal grid with a point among
the reals that round to it, and of two such points the nearer one.
-/
namespace TrackerFilter

structure Decimal where
  digits : Nat
  exponent : Int
  deriving DecidableEq

namespace Binary64

structure Ratio where
  num : Nat
  den : Nat

def Ratio.ofBinary (m : Nat) (e : Int) : Ratio :=
  match e with
  | .ofNat k => ⟨m <<< k, 1⟩
  | .negSucc k => ⟨m, 1 <<< (k + 1)⟩

def Ratio.ofDecimal (d : Decimal) : Ratio :=
  match d.exponent with
  | .ofNat k => ⟨d.digits * tenTo k, 1⟩
  | .negSucc k => ⟨d.digits, tenTo (k + 1)⟩

def Ratio.lt (a b : Ratio) : Bool := decide (a.num * b.den < b.num * a.den)
def Ratio.le (a b : Ratio) : Bool := decide (a.num * b.den ≤ b.num * a.den)

/-- The reals that round to a double; the ends belong to it when the significand is even. -/
structure Interval where
  low : Ratio
  high : Ratio
  closed : Bool

/-- Half a unit on each side, a quarter below a power of two. -/
def interval (m : Nat) (e : Int) : Interval where
  low := .ofBinary (if m = hiddenBit ∧ e ≠ leastExponent then 4 * m - 1 else 4 * m - 2) (e - 2)
  high := .ofBinary (4 * m + 2) (e - 2)
  closed := m % 2 == 0

def Interval.holds (i : Interval) (x : Ratio) : Bool :=
  if i.closed then i.low.le x && x.le i.high else i.low.lt x && x.lt i.high

def Ratio.magnitude (x : Ratio) : Int :=
  let guess : Int := (decimalWidth x.num : Int) - (decimalWidth x.den : Int)
  if (Ratio.ofDecimal ⟨1, guess⟩).le x then guess else guess - 1

def Ratio.floorAt (x : Ratio) (place : Int) : Nat :=
  match place with
  | .ofNat k => x.num / (x.den * tenTo k)
  | .negSucc k => x.num * tenTo (k + 1) / x.den

/-- Which of the neighbours `a` and `a + 1` on a grid is nearer to `x`; a tie goes to the even one. -/
def Ratio.nearer (x : Ratio) (a : Nat) (place : Int) : Nat :=
  let middle : Ratio := .ofDecimal ⟨10 * a + 5, place - 1⟩
  if x.lt middle then a
  else if middle.lt x then a + 1
  else if a % 2 = 0 then a else a + 1

def onGrid (i : Interval) (x : Ratio) (place : Int) : Option Decimal :=
  let a := x.floorAt place
  match i.holds (.ofDecimal ⟨a, place⟩), i.holds (.ofDecimal ⟨a + 1, place⟩) with
  | true, true => some ⟨x.nearer a place, place⟩
  | true, false => some ⟨a, place⟩
  | false, true => some ⟨a + 1, place⟩
  | false, false => none

/-- The shortest decimal of `m * 2^e`, for a positive `m`. Seventeen digits always suffice. -/
def shortest (m : Nat) (e : Int) : Decimal :=
  let x := Ratio.ofBinary m e
  let i := interval m e
  let top := x.magnitude
  ((List.range 17).findSome? fun (k : Nat) => onGrid i x (top - (k : Int))).getD
    ⟨x.floorAt (top - 16), top - 16⟩

end Binary64

end TrackerFilter
