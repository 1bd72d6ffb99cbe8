/-!
The shortest decimal that reads back.

A binary floating-point number stands for an interval of reals, those that round to it. Among the
decimals of that interval `shortest` takes one with the fewest digits, and of those the nearest.
Everything is decided by exact comparison of natural numbers.
-/

namespace Snippet.Decimal

/-- A finite, non-negative double: `mantissa * 2 ^ exponent`. -/
structure Binary where
  /-- the significant bits -/
  mantissa : Nat
  /-- the power of two they are scaled by -/
  exponent : Int
  /-- the number below is half as far away as the number above -/
  narrowBelow : Bool
  deriving Repr, DecidableEq

/-- What a double is. -/
inductive Kind where
  | nan
  | infinite
  | finite (magnitude : Binary)
  deriving Repr, DecidableEq

/-- The sign bit of a double. -/
def isNegative (x : Float) : Bool := x.toBits >>> 63 == 1

/-- The kind of a double, its sign left aside. -/
def kind (x : Float) : Kind :=
  let bits := x.toBits
  let e := ((bits >>> 52) &&& 0x7FF).toNat
  let f := (bits &&& 0xFFFFFFFFFFFFF).toNat
  if e == 0x7FF then (if f == 0 then .infinite else .nan)
  else if e == 0 then .finite ⟨f, -1074, false⟩
  else .finite ⟨0x10000000000000 + f, (e : Int) - 1075, f == 0 && e > 1⟩

/-- A decimal: `digits * 10 ^ exponent`. -/
structure Scientific where
  /-- the digits, as a number -/
  digits : Nat
  /-- the power of ten they are scaled by -/
  exponent : Int
  deriving Repr, DecidableEq

/-- Compares `a * 10 ^ i` with `b * 2 ^ j`, exactly. -/
def compareScaled (a : Nat) (i : Int) (b : Nat) (j : Int) : Ordering :=
  compare (a * Nat.pow 10 i.toNat * Nat.pow 2 (-j).toNat) (b * Nat.pow 2 j.toNat * Nat.pow 10 (-i).toNat)

/-- Does the decimal lie among the reals that round to the number (to nearest, ties to the even
neighbour)? -/
def Binary.readsBack (x : Binary) (d : Scientific) : Bool :=
  let lo := if x.narrowBelow then 4 * x.mantissa - 1 else 4 * x.mantissa - 2
  let hi := 4 * x.mantissa + 2
  let ends := x.mantissa % 2 == 0
  let below := compareScaled d.digits d.exponent lo (x.exponent - 2)
  let above := compareScaled d.digits d.exponent hi (x.exponent - 2)
  (below == .gt || (ends && below == .eq)) && (above == .lt || (ends && above == .eq))

/-- How many decimal digits a number has; zero has none. -/
def digitCount (n : Nat) : Nat := if n = 0 then 0 else (Nat.toDigits 10 n).length

/-- The least `k` with `x < 10 ^ k`, for `x` not zero. -/
def Binary.scale (x : Binary) : Int :=
  let num := x.mantissa * Nat.pow 2 x.exponent.toNat
  let den := Nat.pow 2 (-x.exponent).toNat
  if den ≤ num then digitCount (num / den)
  else
    let d := digitCount (den / num)
    if den = num * Nat.pow 10 (d - 1) then 2 - (d : Int) else 1 - (d : Int)

/-- The greatest multiple of `10 ^ e` that is not above the number, in units of `10 ^ e`. -/
def Binary.unitsOf (x : Binary) (e : Int) : Nat :=
  (x.mantissa * Nat.pow 2 x.exponent.toNat * Nat.pow 10 (-e).toNat) /
    (Nat.pow 2 (-x.exponent).toNat * Nat.pow 10 e.toNat)

/-- The decimal with `n` digits that reads back and is nearest, if there is one. Of two that are
equally near the one with the even last digit is taken. -/
def Binary.withDigits? (x : Binary) (n : Nat) : Option Scientific :=
  let e := x.scale - n
  let c := x.unitsOf e
  let low : Scientific := ⟨c, e⟩
  let high : Scientific := ⟨c + 1, e⟩
  match x.readsBack low, x.readsBack high with
  | true, true =>
    match compareScaled (2 * c + 1) e (2 * x.mantissa) x.exponent with
    | .lt => some high
    | .gt => some low
    | .eq => if c % 2 = 0 then some low else some high
  | true, false => some low
  | false, true => some high
  | false, false => none

/-- The same decimal with no zero at the end of its digits; `fuel` bounds how many are taken away. -/
def Scientific.strip (d : Scientific) : Nat → Scientific
  | 0 => d
  | fuel + 1 =>
    if d.digits ≠ 0 ∧ d.digits % 10 = 0 then strip ⟨d.digits / 10, d.exponent + 1⟩ fuel else d

/-- A shortest decimal that reads back as the number, nearest among those. Seventeen digits always
do; the exact value stands in for the case that cannot arise. -/
def Binary.shortest (x : Binary) : Scientific :=
  if x.mantissa = 0 then ⟨0, 0⟩
  else match (List.range' 1 17).findSome? x.withDigits? with
    | some d => d.strip 20
    | none =>
      if 0 ≤ x.exponent then ⟨x.mantissa * Nat.pow 2 x.exponent.toNat, 0⟩
      else ⟨x.mantissa * Nat.pow 5 (-x.exponent).toNat, x.exponent⟩

end Snippet.Decimal
