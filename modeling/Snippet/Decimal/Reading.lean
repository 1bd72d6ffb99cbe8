import Snippet.Decimal.Shortest
/-!
Reading a double from its decimal digits.
-/

namespace Snippet.Decimal

/-- Positive infinity. -/
def infinity : Float := 1.0 / 0.0

/-- No number at all. -/
def notANumber : Float := 0.0 / 0.0

/-- The double nearest to `digits * 10 ^ exponent`. Far outside the range of doubles the answer is
infinity or zero, decided by the exponent of the leading digit. -/
def nearest (digits : Nat) (exponent : Int) : Float :=
  let lead : Int := exponent + digitCount digits
  if digits = 0 then 0.0
  else if 400 < lead then infinity
  else if lead < -400 then 0.0
  else if 0 ≤ exponent then Float.ofScientific digits false exponent.toNat
  else Float.ofScientific digits true exponent.natAbs

/-- The double nearest to a whole number. -/
def ofInt (n : Int) : Float :=
  if n < 0 then -(nearest n.natAbs 0) else nearest n.natAbs 0

/-- The double nearest to a natural number. -/
def ofNat (n : Nat) : Float := nearest n 0

/-- The number formed by decimal digits. -/
def digitsValue (ds : List Char) : Nat :=
  ds.foldl (fun n c => 10 * n + (c.toNat - '0'.toNat)) 0

/-- The whole number that a finite double is, its fraction dropped. -/
def truncate (x : Float) : Int :=
  match kind x with
  | .finite b =>
    let n := b.mantissa * Nat.pow 2 b.exponent.toNat / Nat.pow 2 (-b.exponent).toNat
    if isNegative x then -(n : Int) else n
  | _ => 0

/-- Is the double a whole number? -/
def isWhole (x : Float) : Bool :=
  match kind x with
  | .finite b => b.mantissa * Nat.pow 2 b.exponent.toNat % Nat.pow 2 (-b.exponent).toNat == 0
  | _ => false

end Snippet.Decimal
