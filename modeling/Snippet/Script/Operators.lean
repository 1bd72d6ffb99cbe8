import Snippet.Script.Convert
/-!
Operators on values.

Whole numbers of 32 bits stay whole where the result is exact and fits, and are doubles otherwise.
-/

namespace Snippet.Script

open Snippet.Text

/-! ## Arithmetic -/

/-- A whole number that may have left the range. -/
def wholeOr (n : Int) (x : Float) : Json.Num :=
  if -0x80000000 ≤ n ∧ n < 0x80000000 then .int n else .float x

/-- The remainder of a division that rounds toward zero, exact, with the sign of the dividend. -/
def floatRem (x y : Float) : Float :=
  match Decimal.kind x, Decimal.kind y with
  | .nan, _ => Decimal.notANumber
  | _, .nan => Decimal.notANumber
  | .infinite, _ => Decimal.notANumber
  | .finite _, .infinite => x
  | .finite a, .finite b =>
    if b.mantissa = 0 then Decimal.notANumber
    else
      let e := min a.exponent b.exponent
      let r := (a.mantissa * Nat.pow 2 (a.exponent - e).toNat) % (b.mantissa * Nat.pow 2 (b.exponent - e).toNat)
      let magnitude := (Float.ofNat r).scaleB e
      if Decimal.isNegative x then -magnitude else magnitude

/-- A power of doubles. -/
def floatPow (x y : Float) : Float :=
  if y == 0.0 then 1.0
  else if y.isNaN then Decimal.notANumber
  else if x.abs == 1.0 && y.isInf then Decimal.notANumber
  else Float.pow x y

/-- The sum of two numbers. -/
def addNum (a b : Json.Num) : Json.Num :=
  match a, b with
  | .int a, .int b => wholeOr (a + b) (Decimal.ofInt (a + b))
  | a, b => .float (asFloat a + asFloat b)

/-- The difference of two numbers. -/
def subNum (a b : Json.Num) : Json.Num :=
  match a, b with
  | .int a, .int b => wholeOr (a - b) (Decimal.ofInt (a - b))
  | a, b => .float (asFloat a - asFloat b)

/-- The product of two numbers. A zero with a negative factor is negative. -/
def mulNum (a b : Json.Num) : Json.Num :=
  match a, b with
  | .int a, .int b =>
    let x := Decimal.ofInt a * Decimal.ofInt b
    if a * b = 0 ∧ (a < 0 ∨ b < 0) then .float x else wholeOr (a * b) x
  | a, b => .float (asFloat a * asFloat b)

/-- The quotient of two numbers. -/
def divNum (a b : Json.Num) : Json.Num :=
  match a, b with
  | .int a, .int b =>
    let x := Decimal.ofInt a / Decimal.ofInt b
    if b ≠ 0 ∧ Int.tmod a b = 0 then wholeOr (Int.tdiv a b) x else .float x
  | a, b => .float (asFloat a / asFloat b)

/-- The remainder of two numbers. -/
def remNum (a b : Json.Num) : Json.Num :=
  match a, b with
  | .int a, .int b =>
    if b = 0 then .float Decimal.notANumber
    else if Int.tmod a b = 0 ∧ a < 0 then .float (-0.0)
    else .int (Int.tmod a b)
  | a, b => .float (floatRem (asFloat a) (asFloat b))

/-- A double multiplied with itself, by squaring; the first number bounds the binary digits of the
exponent. -/
def squaring : Nat → Float → Nat → Float → Float
  | 0, _, _, r => r
  | n + 1, a, e, r =>
    let r := if e % 2 = 1 then r * a else r
    if e / 2 = 0 then r else squaring n (a * a) (e / 2) r

/-- A power with a whole exponent, in doubles. -/
def wholePower (a : Float) (b : Int) : Float :=
  let r := squaring 64 a b.natAbs 1.0
  if b < 0 then 1.0 / r else r

/-- An exponent under which 0, 1 and -1 have the same power. -/
def smallExponent (b : Nat) : Nat := if b ≤ 64 then b else 2 + b % 2

/-- A power of numbers. -/
def powNum (a b : Json.Num) : Json.Num :=
  match a, b with
  | .int a, .int b =>
    let x := wholePower (Decimal.ofInt a) b
    if 0 ≤ b ∧ (b ≤ 64 ∨ a.natAbs ≤ 1) then wholeOr (Int.pow a (smallExponent b.toNat)) x else .float x
  | a, b => .float (floatPow (asFloat a) (asFloat b))

/-- A number with its sign changed. -/
def negNum : Json.Num → Json.Num
  | .int n => if n = 0 then .float (-0.0) else wholeOr (-n) (Decimal.ofInt (-n))
  | .float x => .float (-x)

/-- A number as 32 bits. -/
def numTo32 : Json.Num → Int
  | .int n => wrap32 n
  | .float x => floatTo32 x

/-- An operation on the bits of two numbers. -/
def bitwise (f : Nat → Nat → Nat) (a b : Json.Num) : Json.Num :=
  .int (wrap32 (f ((numTo32 a) % 0x100000000).toNat ((numTo32 b) % 0x100000000).toNat))

/-- How far bits are shifted. -/
def shiftBy (b : Json.Num) : Nat := ((numTo32 b) % 32).toNat

/-- A whole number that need not fit 32 bits. -/
def wholeNum (n : Int) : Json.Num := wholeOr n (Decimal.ofInt n)

/-! ## Comparison -/

/-- Are two numbers equal? -/
def sameNumber (a b : Json.Num) : Bool :=
  match a, b with
  | .int a, .int b => a == b
  | a, b => asFloat a == asFloat b

/-- Are two values the same? -/
def strictEq : Value → Value → Bool
  | .undefined, .undefined => true
  | .null, .null => true
  | .bool a, .bool b => a == b
  | .num a, .num b => sameNumber a b
  | .str a, .str b => a == b
  | .object a, .object b => a == b
  | _, _ => false

namespace Engine

/-- Are two values equal when they are converted to a common kind? The number bounds how often. -/
def looseEq (E : Engine) : Nat → Value → Value → Run Bool
  | 0, _, _ => return false
  | n + 1, a, b => do
    match a, b with
    | .object _, .object _ => return strictEq a b
    | .object _, b =>
      if b.isAbsent then return false else looseEq E n (← E.numberPrimitive a) b
    | a, .object _ =>
      if a.isAbsent then return false else looseEq E n a (← E.numberPrimitive b)
    | a, b =>
      if a.isAbsent || b.isAbsent then return a.isAbsent && b.isAbsent
      else
        match a, b with
        | .str s, .str t => return s == t
        | a, b => return primitiveNumber a == primitiveNumber b

/-- Is the first value less than the second? None where they cannot be compared. -/
def lessThan (a b : Value) : Option Bool :=
  match a, b with
  | .str s, .str t => some (Units.isBefore s t)
  | a, b =>
    let x := primitiveNumber a
    let y := primitiveNumber b
    if x.isNaN || y.isNaN then none else some (x < y)

/-- An operation on two numbers. -/
def numeric (E : Engine) (f : Json.Num → Json.Num → Json.Num) (a b : Value) : Run Value := do
  match a, b with
  | .num x, .num y => return .num (f x y)
  | a, b =>
    let x ← E.number a
    let y ← E.number b
    return .num (f (.float x) (.float y))

/-- A sum of numbers, or texts joined. -/
def add (E : Engine) (a b : Value) : Run Value := do
  match a, b with
  | .num x, .num y => return .num (addNum x y)
  | .str s, .str t => return .str (s ++ t)
  | a, b =>
    let a ← E.numberPrimitive a
    let b ← E.numberPrimitive b
    match a, b with
    | .str s, b => return .str (s ++ primitiveUnits b)
    | a, .str t => return .str (primitiveUnits a ++ t)
    | a, b => return .double (primitiveNumber a + primitiveNumber b)

/-- Does an object come up when parents are followed? The number bounds how far. -/
def inherits (m : Machine) (from_ : Nat) : Nat → Nat → Bool
  | 0, _ => false
  | n + 1, at_ =>
    match (m.obj at_).parent with
    | some up => up == from_ || inherits m from_ n up
    | none => false

/-- Was a value made by a function? -/
def instanceOf (E : Engine) (v f : Value) : Run Bool := do
  let m ← Run.machine
  if !m.isCallable f then
    match f with
    | .object _ => Run.raise .typeError "right-hand side of 'instanceof' is not callable"
    | _ => Run.raise .typeError ("right-hand side of 'instanceof' should be an object, got type \x60" ++
        m.typeName f ++ "\x60")
  else
    match v with
    | .object at_ =>
      match ← E.get f (Units.ofString "prototype") with
      | .object p =>
        let m ← Run.machine
        return inherits m p (m.objects.size + 1) at_
      | _ => Run.raise .typeError "function has non-object prototype in instanceof check"
    | _ => return false

/-- Has an object a property? -/
def hasProperty (E : Engine) (k o : Value) : Run Bool := do
  match o with
  | .object at_ =>
    let key ← E.key k
    return ((← Run.machine).lookup at_ key).isSome
  | _ =>
    Run.raise .typeError ("right-hand side of 'in' should be an object, got \x60" ++
      (← Run.machine).typeName o ++ "\x60")

/-- An operator applied to two values. -/
def binary (E : Engine) (op : BinaryOp) (a b : Value) : Run Value := do
  match op with
  | .add => E.add a b
  | .sub => E.numeric subNum a b
  | .mul => E.numeric mulNum a b
  | .div => E.numeric divNum a b
  | .rem => E.numeric remNum a b
  | .pow => E.numeric powNum a b
  | .bitAnd => E.numeric (bitwise Nat.land) a b
  | .bitOr => E.numeric (bitwise Nat.lor) a b
  | .bitXor => E.numeric (bitwise Nat.xor) a b
  | .shiftLeft => E.numeric (fun x y => .int (wrap32 (numTo32 x * Nat.pow 2 (shiftBy y)))) a b
  | .shiftRight => E.numeric (fun x y => .int (numTo32 x / Nat.pow 2 (shiftBy y))) a b
  | .shiftRightZero =>
    E.numeric (fun x y => wholeNum (numTo32 x % 0x100000000 / Nat.pow 2 (shiftBy y))) a b
  | .strictEqual => return .bool (strictEq a b)
  | .strictUnequal => return .bool (!strictEq a b)
  | .looseEqual => return .bool (← E.looseEq 4 a b)
  | .looseUnequal => return .bool (!(← E.looseEq 4 a b))
  | .less =>
    let a ← E.numberPrimitive a
    let b ← E.numberPrimitive b
    return .bool (lessThan a b == some true)
  | .greater =>
    let a ← E.numberPrimitive a
    let b ← E.numberPrimitive b
    return .bool (lessThan b a == some true)
  | .lessEqual =>
    let a ← E.numberPrimitive a
    let b ← E.numberPrimitive b
    return .bool (lessThan b a == some false)
  | .greaterEqual =>
    let a ← E.numberPrimitive a
    let b ← E.numberPrimitive b
    return .bool (lessThan a b == some false)
  | .instanceOf => return .bool (← E.instanceOf a b)
  | .isIn => return .bool (← E.hasProperty a b)

end Engine

end Snippet.Script
