import Vitae.Decimal.Shortest

/-!
Decimals with a fixed number of places, rounded exactly with a tie to the even last digit.
-/

namespace Vitae.Decimal

/-- A number of `10 ^ -places` units as text. -/
def unitsText (units places : Nat) : String :=
  let ds := (decimalDigits units).map digitChar
  let padded := zeros (places + 1 - ds.length) ++ ds
  let whole := padded.length - places
  String.ofList (padded.take whole ++ if places = 0 then [] else '.' :: padded.drop whole)

/-- `± num / den` with the given number of places. The sign is kept even where all digits are
zero. -/
def ratioFixed (negative : Bool) (num den places : Nat) : String :=
  (if negative then "-" else "") ++ unitsText (roundDiv (num * Nat.pow 10 places) den) places

def Binary64.fixed (x : Binary64) (places : Nat) : String :=
  match x with
  | .nan => "nan"
  | .infinite s => if s then "-inf" else "inf"
  | .finite s m e =>
    let (n, d) := scaled 2 m 1 e
    ratioFixed s n d places

/-- A fixed decimal without its trailing zeros, nor the point if nothing follows it. -/
def trimFraction (s : String) : String :=
  let cs := (s.toList.reverse.dropWhile (· == '0'))
  let cs := match cs with
    | '.' :: rest => rest
    | _ => cs
  String.ofList cs.reverse

end Vitae.Decimal
