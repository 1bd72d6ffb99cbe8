import Snippet.Script.Convert
/-!
The conversion of values to JSON text that scripts can call.

Unlike the way in which objects are shown, it leaves out what has no JSON form, asks objects for a form
of their own, and refuses an object inside itself.
-/

namespace Snippet.Script

open Snippet.Text

/-- A unit between quotes. -/
def quoteUnit (n : Nat) : List Char :=
  match Json.shortEscape n with
  | some e => ['\\', e]
  | none =>
    if n < 0x20 || Points.isSurrogate n then Json.unicodeEscape n else [Char.ofNat n]

/-- Text between quotes. -/
def quoteUnits (s : Units) : Units :=
  Units.ofChars ('"' :: (s.toPoints.flatMap quoteUnit) ++ ['"'])

/-- How deep the layout is, and what it is made of. -/
structure Indent where
  /-- what one level adds -/
  gap : Units
  /-- what stands before a line now -/
  before : Units

/-- The next level. -/
def Indent.deeper (i : Indent) : Indent := { i with before := i.before ++ i.gap }

/-- Parts between two marks, on lines of their own where there is an indentation. -/
def Indent.layOut (i : Indent) (opening closing : Nat) (parts : List Units) : Units :=
  if parts.isEmpty then [opening, closing]
  else if i.gap.isEmpty then
    [opening] ++ ([0x2C] : Units).intercalate parts ++ [closing]
  else
    let line := 10 :: i.deeper.before
    [opening] ++ line ++ ((0x2C :: line) : Units).intercalate parts ++ (10 :: i.before) ++ [closing]

/-- What becomes of the parts of a value. -/
structure Selection where
  /-- a function that every part is passed through, together with its key -/
  replacer : Option Value
  /-- the members that are kept, in this order; all of them if there is no list -/
  only : Option (List Units)

namespace Engine

/-- The selection that an argument asks for: a function replaces parts, an array lists members. -/
def selection (E : Engine) (v : Value) : Run Selection := do
  let m ← Run.machine
  match v with
  | .object at_ =>
    let o := m.obj at_
    if o.isCallable then return ⟨some v, none⟩
    else match o.kind with
      | .array items =>
        let keys ← (List.range items.size).filterMapM fun k => do
          match ← E.get v (indexKey k) with
          | .str s => return some s
          | .num x => return some (Units.ofString (numberText x))
          | .object b =>
            match (m.obj b).kind with
            | .boxed (.str _) | .boxed (.num _) => return some (← E.text (.object b))
            | _ => return none
          | _ => return none
        return ⟨none, some keys.eraseDups⟩
      | _ => return ⟨none, none⟩
  | _ => return ⟨none, none⟩

/-- What stands between the name of a member and its value. -/
def colon (i : Indent) : Units := if i.gap.isEmpty then [0x3A] else [0x3A, 0x20]

/-- The value of a member as JSON text; none if it has no such form. The number bounds the nesting, the
list holds the objects around. -/
def stringify (E : Engine) (selected : Selection) :
    Nat → List Nat → Indent → Value → Units → Value → Run (Option Units)
  | 0, _, _, _, _, _ => Run.raise .typeError "cyclic object value"
  | n + 1, inside, i, holder, key, v => do
    let v ← match v with
      | .object _ => do
        let f ← E.get v (Units.ofString "toJSON")
        if (← Run.machine).isCallable f then E.call f v [.str key] else pure v
      | v => pure v
    let v ← match selected.replacer with
      | some f => E.call f holder [.str key, v]
      | none => pure v
    let m ← Run.machine
    match v with
    | .undefined => return none
    | .null => return some (Units.ofString "null")
    | .bool b => return some (primitiveUnits (.bool b))
    | .num x =>
      return some (Units.ofString (if (asFloat x).isFinite then numberText x else "null"))
    | .str s => return some (quoteUnits s)
    | .object at_ =>
      let o := m.obj at_
      if inside.contains at_ then Run.raise .typeError "cyclic object value"
      else if o.isCallable then return none
      else
        match o.kind with
        | .boxed (.str _) => return some (quoteUnits (← E.text v))
        | .boxed _ => return some (primitiveUnits (← E.numberPrimitive v))
        | .array items =>
          let parts ← (List.range items.size).mapM fun k => do
            let item ← E.get v (indexKey k)
            let part ← E.stringify selected n (at_ :: inside) i.deeper v (indexKey k) item
            return part.getD (Units.ofString "null")
          return some (i.layOut 0x5B 0x5D parts)
        | _ =>
          let keys := selected.only.getD <|
            o.keys.filter fun k => ((o.own? k).map (·.enumerable)).getD false
          let parts ← keys.mapM fun k => do
            let part ← E.stringify selected n (at_ :: inside) i.deeper v k (← E.get v k)
            return part.map fun text => quoteUnits k ++ colon i ++ text
          return some (i.layOut 0x7B 0x7D (parts.filterMap id))

/-- The indentation that an argument asks for. -/
def gapOf : Value → Units
  | .num x => List.replicate (min 10 (Decimal.truncate (asFloat x)).toNat) 0x20
  | .str s => s.take 10
  | _ => []

/-- The member without a name of a holder as JSON text, selected and laid out as the arguments ask for. -/
def stringifyCall (E : Engine) (holder v replacer space : Value) : Run Value := do
  let selected ← E.selection replacer
  let m ← Run.machine
  match ← E.stringify selected (m.objects.size + 1000) [] ⟨gapOf space, []⟩ holder [] v with
  | some s => return .str s
  | none => return .undefined

end Engine

end Snippet.Script
