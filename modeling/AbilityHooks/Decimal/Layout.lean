import AbilityHooks.Decimal.Basic

/-!
# The text of a double

Numbers with a leading digit between ten to the power -5 and ten to the power 15 are written
positionally and always with a fraction; all others with one digit before the point and an
exponent, which carries its sign even when it is positive. Fewest digits first: the text reads
back as the same double.
-/

namespace AbilityHooks.Decimal

/-- Whether a leading digit at this power of ten is written positionally. -/
def isPositional (leading : Int) : Bool := -5 ≤ leading && leading < 16

/-- The positional text of a decimal with the given digits: zeros fill up to the point, and
the fraction has at least one digit. -/
def positional (digits : List Char) (exponent : Int) : List Char :=
  if 0 ≤ exponent then digits ++ List.replicate exponent.toNat '0' ++ ['.', '0']
  else
    let places := (-exponent).toNat
    if places < digits.length then
      digits.take (digits.length - places) ++ '.' :: digits.drop (digits.length - places)
    else '0' :: '.' :: (List.replicate (places - digits.length) '0' ++ digits)

/-- The text of a decimal with one digit before the point and an exponent. -/
def scientific (digits : List Char) (leading : Int) : List Char :=
  let sign := if 0 ≤ leading then '+' else '-'
  let fraction := match digits.tail with
    | [] => []
    | rest => '.' :: rest
  digits.take 1 ++ fraction ++ 'e' :: sign :: digitChars leading.natAbs

/-- The text of a decimal. -/
def layout (d : Decimal) : List Char :=
  let digits := digitChars d.digits
  let leading : Int := digits.length - 1 + d.exponent
  if isPositional leading then positional digits d.exponent else scientific digits leading

/-- The text of a finite double. -/
def floatText (x : Float) : String :=
  let sign := if Double.isNegative x then ['-'] else []
  let magnitude := if x == 0 then ['0', '.', '0'] else (shortest x).layout
  String.ofList (sign ++ magnitude)

end AbilityHooks.Decimal
