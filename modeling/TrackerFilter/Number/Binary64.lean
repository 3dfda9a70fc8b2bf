/-!
Doubles as exact numbers: a sign, a significand below 2^53 and a power of two. A decimal becomes the
nearest double, and a half goes to the even significand.
-/
namespace TrackerFilter

/-- `finite s m e` stands for `m * 2^e` with the sign `s`, so that zero has two signs. -/
inductive Binary64 where
  | nan
  | infinite (negative : Bool)
  | finite (negative : Bool) (significand : Nat) (exponent : Int)
  deriving DecidableEq

namespace Binary64

def tenTo (k : Nat) : Nat := Nat.pow 10 k

def leastExponent : Int := -1074
def greatestExponent : Int := 971
def hiddenBit : Nat := 1 <<< 52

def zero (negative : Bool) : Binary64 := finite negative 0 leastExponent

def roundHalfEven (num den : Nat) : Nat :=
  let q := num / den
  let r := num % den
  if den < 2 * r ∨ (2 * r = den ∧ q % 2 = 1) then q + 1 else q

def rescale (num den : Nat) : Int → Nat × Nat
  | .ofNat k => (num, den <<< k)
  | .negSucc k => (num <<< (k + 1), den)

/-- The exponent at which a positive fraction has a significand of 53 bits, or the least one. -/
def exponentOf (num den : Nat) : Int :=
  let guess : Int := (num.log2 : Int) - (den.log2 : Int) - 53
  let (n, d) := rescale num den guess
  let e := if (hiddenBit * 2) * d ≤ n then guess + 1 else guess
  if e < leastExponent then leastExponent else e

def nearest (negative : Bool) (num den : Nat) : Binary64 :=
  if num = 0 then zero negative
  else
    let e := exponentOf num den
    let (n, d) := rescale num den e
    let m := roundHalfEven n d
    let (m, e) := if m = hiddenBit * 2 then (hiddenBit, e + 1) else (m, e)
    if greatestExponent < e then infinite negative else finite negative m e

def decimalWidth (n : Nat) : Nat := (Nat.toDigits 10 n).length

/-- The double nearest to `digits * 10^exponent`. Beyond 400 places on either side the answer is known
without the power: the greatest double is below 10^309 and half of the least one above 10^-324. -/
def ofDecimal (negative : Bool) (digits : Nat) (exponent : Int) : Binary64 :=
  let top := exponent + (decimalWidth digits : Int)
  if digits = 0 ∨ top < -400 then zero negative
  else if 400 < top then infinite negative
  else match exponent with
    | .ofNat k => nearest negative (digits * tenTo k) 1
    | .negSucc k => nearest negative digits (tenTo (k + 1))

/-- The integer that a double is equal to, if there is one. Both zeros are equal to 0. -/
def toInt? : Binary64 → Option Int
  | finite negative m e =>
    let (n, d) := match e with
      | .ofNat k => (m <<< k, 1)
      | .negSucc k => (m, 1 <<< (k + 1))
    if n % d = 0 then some (if negative then -((n / d : Nat) : Int) else ((n / d : Nat) : Int)) else none
  | _ => none

end Binary64

end TrackerFilter
