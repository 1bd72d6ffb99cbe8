import Snippet.Decimal.Shortest
/-!
Writing numbers: the layouts of the formats in which a double is shown.

`Layout` holds the decisions of a format, `Layout.write` lays out the shortest decimal by them.
`fixed` writes a set number of places instead, rounding the exact binary value with ties to the even
neighbour.
-/

namespace Snippet.Decimal

/-- The decisions of a format for floating-point numbers. -/
structure Layout where
  /-- the least decimal exponent of the leading digit that is written positionally -/
  positionalFrom : Int
  /-- the greatest decimal exponent of the leading digit that is written positionally -/
  positionalTo : Int
  /-- a whole number is written with this fraction -/
  wholeSuffix : String
  /-- the exponent has at least this many digits -/
  exponentWidth : Nat
  /-- a minus sign stands before zero when its sign bit is set -/
  signedZero : Bool
  /-- what is written for a value that is no number -/
  nan : String
  /-- what is written for infinity; a minus sign precedes it where it is negative -/
  infinity : String
  deriving Repr

/-- The digits of a natural number. -/
def natText (n : Nat) : String := String.ofList (Nat.toDigits 10 n)

/-- A signed whole number. -/
def intText (n : Int) : String := if n < 0 then "-" ++ natText n.natAbs else natText n.natAbs

/-- A number of zeros. -/
def zeros (n : Nat) : String := String.ofList (List.replicate n '0')

/-- Text filled up with zeros on the left. -/
def padZeros (width : Nat) (s : String) : String := zeros (width - s.length) ++ s

/-- Lays out a decimal without its sign. -/
def Layout.writeDecimal (f : Layout) (d : Scientific) : String :=
  let ds := Nat.toDigits 10 d.digits
  let count := ds.length
  let lead : Int := d.exponent + count - 1
  if d.digits = 0 then "0" ++ f.wholeSuffix
  else if f.positionalFrom ≤ lead ∧ lead ≤ f.positionalTo then
    if 0 ≤ d.exponent then String.ofList ds ++ zeros d.exponent.toNat ++ f.wholeSuffix
    else if 0 ≤ lead then
      String.ofList (ds.take (lead.toNat + 1)) ++ "." ++ String.ofList (ds.drop (lead.toNat + 1))
    else "0." ++ zeros ((-lead).toNat - 1) ++ String.ofList ds
  else
    let fraction := ds.drop 1
    String.ofList (ds.take 1) ++ (if fraction.isEmpty then "" else "." ++ String.ofList fraction) ++
      "e" ++ (if lead < 0 then "-" else "+") ++ padZeros f.exponentWidth (natText lead.natAbs)

/-- Writes a double with the fewest digits that read back. -/
def Layout.write (f : Layout) (x : Float) : String :=
  match kind x with
  | .nan => f.nan
  | .infinite => (if isNegative x then "-" else "") ++ f.infinity
  | .finite b =>
    let sign := if isNegative x && (b.mantissa != 0 || f.signedZero) then "-" else ""
    sign ++ f.writeDecimal b.shortest

/-! ## A set number of places -/

/-- The quotient rounded to the nearest whole number, a tie going to the even one. -/
def roundHalfEven (num den : Nat) : Nat :=
  let q := num / den
  let r := num % den
  if 2 * r < den then q else if den < 2 * r then q + 1 else if q % 2 = 0 then q else q + 1

/-- A double with a set number of places after the point. -/
def fixed (places : Nat) (x : Float) : String :=
  match kind x with
  | .nan => "NaN"
  | .infinite => if isNegative x then "-inf" else "inf"
  | .finite b =>
    let units := roundHalfEven (b.mantissa * Nat.pow 2 b.exponent.toNat * Nat.pow 10 places)
      (Nat.pow 2 (-b.exponent).toNat)
    let ds := Nat.toDigits 10 (units / Nat.pow 10 places)
    let fraction := padZeros places (natText (units % Nat.pow 10 places))
    (if isNegative x then "-" else "") ++ String.ofList ds ++
      (if places = 0 then "" else "." ++ fraction)

end Snippet.Decimal
