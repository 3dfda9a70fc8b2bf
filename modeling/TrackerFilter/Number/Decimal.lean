import TrackerFilter.Number.Shortest

/-!
The text of a double: its shortest digits, positional where the first digit stands between the fourth
place after the point and the sixteenth before it, and with an exponent elsewhere.
-/
namespace TrackerFilter

namespace Decimal

def figures (d : Decimal) : List Char :=
  ((Nat.toDigits 10 d.digits).reverse.dropWhile (· == '0')).reverse

def lead (d : Decimal) : Int := d.exponent + (Binary64.decimalWidth d.digits : Int) - 1

def exponentText (lead : Int) : String :=
  let digits := Nat.toDigits 10 lead.natAbs
  String.ofList ((if lead < 0 then '-' else '+') :: (if digits.length < 2 then '0' :: digits else digits))

def scientific (figures : List Char) (lead : Int) : String :=
  String.ofList (match figures with
    | [] => []
    | [c] => [c]
    | c :: rest => c :: '.' :: rest) ++ "e" ++ exponentText lead

/-- A number without a fraction still shows `.0`. -/
def positional (figures : List Char) (lead : Int) : String :=
  match lead with
  | .negSucc k => String.ofList ("0.".toList ++ List.replicate k '0' ++ figures)
  | .ofNat k =>
    let whole := figures.take (k + 1)
    let fraction := figures.drop (k + 1)
    String.ofList (whole ++ List.replicate (k + 1 - whole.length) '0' ++ '.' ::
      (if fraction.isEmpty then ['0'] else fraction))

def text (d : Decimal) : String :=
  if -4 ≤ d.lead ∧ d.lead < 16 then positional d.figures d.lead else scientific d.figures d.lead

end Decimal

namespace Binary64

def signed (negative : Bool) (text : String) : String := if negative then "-" ++ text else text

def text : Binary64 → String
  | nan => "nan"
  | infinite negative => signed negative "inf"
  | finite negative m e => signed negative (if m = 0 then "0.0" else (shortest m e).text)

end Binary64

end TrackerFilter
