import Snippet.Script.Realm
import Snippet.Script.Complaint
/-!
From one kind of value to another, and the properties of values.

An object is converted by its own methods, so a conversion can do whatever a script can do.
-/

namespace Snippet.Script

open Snippet.Text

/-- Text as a value. -/
def Value.text (s : String) : Value := .str (Units.ofString s)

/-- A whole number as a value. -/
def Value.whole (n : Int) : Value :=
  if -0x80000000 ≤ n ∧ n < 0x80000000 then .num (.int n) else .num (.float (Decimal.ofInt n))

/-- A double as a value. -/
def Value.double (x : Float) : Value := .num (.float x)

/-- A number as a double. -/
def asFloat : Json.Num → Float
  | .int n => Decimal.ofInt n
  | .float x => x

/-- Is a number neither zero nor no number at all? -/
def isNonzero : Json.Num → Bool
  | .int n => n != 0
  | .float x => !(x == 0.0) && !x.isNaN

/-- Does a value count as true? -/
def Value.isTrue : Value → Bool
  | .undefined => false
  | .null => false
  | .bool b => b
  | .num n => isNonzero n
  | .str s => !s.isEmpty
  | .object _ => true

/-- Is a value absent? -/
def Value.isAbsent : Value → Bool
  | .undefined => true
  | .null => true
  | _ => false

/-- Can the object be called? -/
def Obj.isCallable (o : Obj) : Bool :=
  match o.kind with
  | .function .. => true
  | .native _ => true
  | _ => false

/-- How many items an array has; none for what is no array. -/
def Obj.size? (o : Obj) : Option Nat :=
  match o.kind with
  | .array items => some items.size
  | _ => none

/-- Is the object an array? -/
def Obj.isArray (o : Obj) : Bool := o.size?.isSome

/-- Can the object make objects? -/
def Obj.isConstructor (o : Obj) : Bool :=
  match o.kind with
  | .function f .. => f.kind = .plain
  | .native n => n.isConstructor
  | _ => false

/-- Can the value be called? -/
def Machine.isCallable (m : Machine) : Value → Bool
  | .object at_ => (m.obj at_).isCallable
  | _ => false

/-- The name of a value's kind. -/
def Machine.typeName (m : Machine) : Value → String
  | .undefined => "undefined"
  | .null => "object"
  | .bool _ => "boolean"
  | .num _ => "number"
  | .str _ => "string"
  | .object at_ => if (m.obj at_).isCallable then "function" else "object"

/-! ## Numbers in text -/

/-- A unit that is passed over at the ends of a number. -/
def isBlankUnit (n : Nat) : Bool :=
  !Points.isSurrogate n && (isGap (Char.ofNat n) || isLineEnd (Char.ofNat n))

/-- Text without blanks at its ends. -/
def trimUnits (s : Units) : Units :=
  (((s.dropWhile isBlankUnit).reverse).dropWhile isBlankUnit).reverse

/-- Units as characters; what is no character becomes one that no number holds. -/
def unitChars (s : Units) : List Char :=
  s.map fun n => if Points.isSurrogate n then '\uFFFD' else Char.ofNat n

/-- The number that a decimal literal spells, if it is one. -/
def decimalText? (s : List Char) : Option Float :=
  let whole := s.takeWhile Char.isDigit
  let rest := s.dropWhile Char.isDigit
  let (places, rest) := match rest with
    | '.' :: r => (r.takeWhile Char.isDigit, r.dropWhile Char.isDigit)
    | r => ([], r)
  if whole.isEmpty && places.isEmpty then none
  else
    match Json.exponent? rest with
    | some (shift, []) =>
      some (Decimal.nearest (Decimal.digitsValue (whole ++ places)) (shift.getD 0 - places.length))
    | _ => none

/-- The number that digits in a base spell. -/
def baseText (base : Nat) (s : List Char) : Float :=
  if !s.isEmpty && s.all (isBaseDigit base) then Decimal.ofNat (baseValue base s)
  else Decimal.notANumber

/-- The number that a text spells; what spells none is no number. -/
def textNumber (s : Units) : Float :=
  match unitChars (trimUnits s) with
  | [] => 0.0
  | '0' :: 'x' :: rest => baseText 16 rest
  | '0' :: 'X' :: rest => baseText 16 rest
  | '0' :: 'o' :: rest => baseText 8 rest
  | '0' :: 'O' :: rest => baseText 8 rest
  | '0' :: 'b' :: rest => baseText 2 rest
  | '0' :: 'B' :: rest => baseText 2 rest
  | '-' :: rest =>
    if rest == "Infinity".toList then -Decimal.infinity
    else ((decimalText? rest).map (-·)).getD Decimal.notANumber
  | '+' :: rest =>
    if rest == "Infinity".toList then Decimal.infinity
    else (decimalText? rest).getD Decimal.notANumber
  | s =>
    if s == "Infinity".toList then Decimal.infinity
    else (decimalText? s).getD Decimal.notANumber

/-- A number cut to 32 bits. -/
def wrap32 (n : Int) : Int := Int.bmod n 0x100000000

/-- A double cut to 32 bits. -/
def floatTo32 (x : Float) : Int := wrap32 (Decimal.truncate x)

/-! ## Properties -/

/-- What is said when a property is looked for where there can be none. -/
def noObject : String := "cannot convert 'null' or 'undefined' to object"

/-- What is said when something that is no function is called. -/
def notCallable : String := "not a callable function"

/-- Where the properties of a value are looked for. -/
def placeOf : Value → Option Nat
  | .undefined => none
  | .null => none
  | .bool _ => some Realm.boolParent
  | .num _ => some Realm.numberParent
  | .str _ => some Realm.textParent
  | .object at_ => some at_

/-- A property of a text itself. -/
def textOwn? (s : Units) (key : Units) : Option Value :=
  if key == lengthKey then some (Value.whole s.length)
  else ((index? key).bind (s[·]?)).map fun n => .str [n]

namespace Engine

/-- The value of a property. -/
def valueOf (E : Engine) (receiver : Value) : Option Property → Run Value
  | none => return .undefined
  | some p =>
    match p.holding with
    | .data v => return v
    | .accessor (some g) _ => E.call g receiver []
    | .accessor none _ => return .undefined

/-- A property of a value. -/
def get (E : Engine) (base : Value) (key : Units) : Run Value := do
  let own : Option Value := match base with
    | .str s => textOwn? s key
    | _ => none
  match own, placeOf base with
  | some v, _ => return v
  | none, none => Run.raise .typeError noObject
  | none, some at_ =>
    E.valueOf base (← Run.reading fun m => m.lookup at_ key)

/-- A method of an object, called. Without arguments that matter. -/
def callMethod (E : Engine) (base : Value) (name : String) : Run (Option Value) := do
  let f ← E.get base (Units.ofString name)
  if ← Run.reading fun m => m.isCallable f then return some (← E.call f base []) else return none

/-- Is the value no object? -/
def isPrimitive : Value → Bool
  | .object _ => false
  | _ => true

/-- A value that is no object, made by the first method that gives one. -/
def primitiveBy (E : Engine) (v : Value) : List String → Run Value
  | [] => Run.raise .typeError "cannot convert object to primitive value"
  | name :: rest => do
    match ← E.callMethod v name with
    | some r => if isPrimitive r then return r else primitiveBy E v rest
    | none => primitiveBy E v rest

/-- A value that is no object, as a text rather than as a number. -/
def textPrimitive (E : Engine) (v : Value) : Run Value :=
  if isPrimitive v then return v else E.primitiveBy v ["toString", "valueOf"]

/-- A value that is no object, as a number rather than as a text. -/
def numberPrimitive (E : Engine) (v : Value) : Run Value :=
  if isPrimitive v then return v else E.primitiveBy v ["valueOf", "toString"]

end Engine

/-- The text of a value that is no object. -/
def primitiveUnits : Value → Units
  | .undefined => Units.ofString "undefined"
  | .null => Units.ofString "null"
  | .bool b => Units.ofString (if b then "true" else "false")
  | .num n => Units.ofString (numberText n)
  | .str s => s
  | .object _ => []

/-- The number of a value that is no object. -/
def primitiveNumber : Value → Float
  | .undefined => Decimal.notANumber
  | .null => 0.0
  | .bool b => if b then 1.0 else 0.0
  | .num n => asFloat n
  | .str s => textNumber s
  | .object _ => Decimal.notANumber

namespace Engine

/-- The text of a value. -/
def text (E : Engine) (v : Value) : Run Units := do
  return primitiveUnits (← E.textPrimitive v)

/-- The number of a value. -/
def number (E : Engine) (v : Value) : Run Float := do
  return primitiveNumber (← E.numberPrimitive v)

/-- The property name of a value. -/
def key (E : Engine) (v : Value) : Run Units := E.text v

/-- Stores into a property of a value. What cannot be stored is dropped, or refused in strict code. -/
def set (E : Engine) (strict : Bool) (base : Value) (key : Units) (v : Value) : Run Unit := do
  let refuse : Run Unit :=
    if strict then
      Run.raise .typeError ("cannot set non-writable property: " ++ key.escaped)
    else return ()
  match base with
  | .undefined => Run.raise .typeError noObject
  | .null => Run.raise .typeError noObject
  | .object at_ =>
    match ← Run.reading fun m => m.lookup at_ key with
    | some ⟨.accessor _ (some f), _, _, _⟩ => do
      let _ ← E.call f base [v]
    | some ⟨.accessor _ none, _, _, _⟩ => refuse
    | some ⟨.data _, false, _, _⟩ => refuse
    | _ =>
      if key == lengthKey && (← Run.reading fun m => (m.obj at_).isArray) then
        let n ← E.number v
        if Decimal.isWhole n && n >= 0.0 && n < 4294967296.0 then
          Run.change fun m => m.resize at_ (Decimal.truncate n).toNat
        else Run.raise .rangeError "invalid array length"
      else
        let p ← Run.reading fun m => match (m.obj at_).own? key with
          | some own => { own with holding := .data v }
          | none => .plain v
        Run.change fun m => m.put at_ key p
  | _ => refuse

/-- The length that a value tells. -/
def lengthOf (E : Engine) (v : Value) : Run Nat := do
  let n ← E.number (← E.get v lengthKey)
  return if n > 0.0 && n.isFinite then (Decimal.truncate n).toNat else 0

end Engine

end Snippet.Script
