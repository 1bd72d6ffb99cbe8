import Snippet.Guest.Operators
/-!
Laying out values by a format.

A `Spec` is what stands after the colon of a value inside a text: fill, alignment, sign, width, grouping,
precision and kind.
-/

namespace Snippet.Guest

open Snippet.Text

/-- A format. -/
structure Spec where
  fill : Nat
  align : Option Char
  sign : Option Char
  alternate : Bool
  width : Nat
  grouping : Option Char
  precision : Option Nat
  kind : Option Char

/-- Is the character an alignment? -/
def isAlign (c : Char) : Bool := c == '<' || c == '>' || c == '^' || c == '='

namespace Spec

/-- The format that a text spells, given the alignment that is usual; none if it spells none. -/
def ofChars? (usual : Char) (s : List Char) : Option Spec :=
  let (fill, align, s) := match s with
    | a :: b :: rest =>
      if isAlign b then (some a.toNat, some b, rest)
      else if isAlign a then (none, some a, b :: rest)
      else (none, none, s)
    | [a] => if isAlign a then (none, some a, []) else (none, none, s)
    | [] => (none, none, [])
  let (sign, s) := match s with
    | c :: rest => if c == '+' || c == '-' || c == ' ' then (some c, rest) else (none, s)
    | [] => (none, s)
  let (alternate, s) := match s with
    | '#' :: rest => (true, rest)
    | s => (false, s)
  let (fill, align, s) := match fill, s with
    | none, '0' :: rest => (some 48, align.orElse fun _ => if usual == '>' then some '=' else none, rest)
    | fill, s => (fill, align, s)
  let width := Decimal.digitsValue (s.takeWhile Char.isDigit)
  let s := s.dropWhile Char.isDigit
  let (grouping, s) := match s with
    | ',' :: rest => (some ',', rest)
    | '_' :: rest => (some '_', rest)
    | s => (none, s)
  let (precision, s) := match s with
    | '.' :: rest =>
      (some (Decimal.digitsValue (rest.takeWhile Char.isDigit)), rest.dropWhile Char.isDigit)
    | s => (none, s)
  match s with
  | [] => some ⟨fill.getD 32, align, sign, alternate, width, grouping, precision, none⟩
  | [k] => some ⟨fill.getD 32, align, sign, alternate, width, grouping, precision, some k⟩
  | _ => none

/-- A text brought to the width, given the alignment that is usual and a sign in front. -/
def pad (s : Spec) (usual : Char) (sign body : Points) : Points :=
  let missing := s.width - (sign.length + body.length)
  let filler (n : Nat) : Points := List.replicate n s.fill
  match s.align.getD usual with
  | '<' => sign ++ body ++ filler missing
  | '^' => filler (missing / 2) ++ sign ++ body ++ filler (missing - missing / 2)
  | '=' => sign ++ filler missing ++ body
  | _ => filler missing ++ sign ++ body

/-- Are digits to be grouped up to a width with zeros in front? -/
def groupsZeros (s : Spec) : Bool := s.grouping.isSome && s.align == some '=' && s.fill == 48

/-- Is the width, or the number of digits, too large to be laid out? -/
def isHuge (s : Spec) : Bool := bitLimit < s.width || 1000 < s.precision.getD 0

end Spec

/-- Digits with a mark after every three, counted from the end. -/
def grouped (mark : Char) (ds : List Char) : List Char :=
  let n := ds.length
  (ds.zipIdx.flatMap fun (d, i) => if i != 0 && (n - i) % 3 == 0 then [mark, d] else [d])

/-- What is said of a kind of format that a value does not have. -/
def unknownFormat {α : Type} (kind : Char) (name : String) : Run α :=
  Run.raise "ValueError" ("Unknown format code '" ++ String.singleton kind ++
    "' for object of type '" ++ name ++ "'")

/-- The sign of a number in a format. -/
def signPoints (s : Spec) (negative : Bool) : Points :=
  if negative then [45]
  else match s.sign with
    | some '+' => [43]
    | some ' ' => [32]
    | _ => []

/-- Kinds of format for doubles that are left out. -/
def isLeftOutKind (k : Char) : Bool := "eEgGn".toList.contains k

/-- A double in a format. -/
def formatFloat (s : Spec) (name : String) (x : Float) : Run Points := do
  let magnitude := x.abs
  let finite := magnitude < Decimal.infinity
  let fixed (y : Float) : Run (List Char) :=
    if finite then return (Decimal.fixed (s.precision.getD 6) y).toList
    else return (floatLayout.write y).toList
  if s.alternate || s.groupsZeros || s.isHuge then Run.abrupt .beyond
  let text ← match s.kind with
    | some 'f' => fixed magnitude
    | some 'F' => if finite then fixed magnitude else Run.abrupt .beyond
    | some '%' => do pure ((← fixed (magnitude * 100.0)) ++ ['%'])
    | none =>
      match s.precision with
      | none => pure (floatLayout.write magnitude).toList
      | some _ => Run.abrupt .beyond
    | some k => if isLeftOutKind k then Run.abrupt .beyond else unknownFormat k name
  let whole := text.takeWhile Char.isDigit
  let rest := text.dropWhile Char.isDigit
  let whole := match s.grouping with
    | some g => grouped g whole
    | none => whole
  let negative := Decimal.isNegative x && (finite || x < 0.0)
  return s.pad '>' (signPoints s negative) ((whole ++ rest).map Char.toNat)

/-- A whole number in a format. -/
def formatInt (s : Spec) (name : String) (n : Int) : Run Points := do
  let negative := n < 0
  let plain : Run Points := do
    let ds ← intPoints n.natAbs
    let ds := ds.map Char.ofNat
    let ds := match s.grouping with
      | some g => grouped g ds
      | none => ds
    return s.pad '>' (signPoints s negative) (ds.map Char.toNat)
  let inBase (base : Nat) (mark : String) (digit : Char → Char) : Run Points := do
    if s.grouping.isSome then Run.abrupt .beyond
    let front := signPoints s negative ++ (if s.alternate then pts mark else [])
    return s.pad '>' front ((Nat.toDigits base n.natAbs).map fun d => (digit d).toNat)
  let asFloat : Run Points := do
    let x := Decimal.ofInt n
    if x.abs < Decimal.infinity then formatFloat s "float" x else Run.abrupt .beyond
  if s.isHuge || s.groupsZeros then Run.abrupt .beyond
  match s.kind with
  | some 'f' => asFloat
  | some 'F' => asFloat
  | some '%' => asFloat
  | kind =>
    if s.precision.isSome then Run.raise "ValueError" "Precision not allowed in integer format specifier"
    match kind with
    | none => plain
    | some 'd' => plain
    | some 'x' => inBase 16 "0x" id
    | some 'X' => inBase 16 "0X" Char.toUpper
    | some 'o' => inBase 8 "0o" id
    | some 'b' => inBase 2 "0b" id
    | some 'c' => Run.abrupt .beyond
    | some k => if isLeftOutKind k then Run.abrupt .beyond else unknownFormat k name

/-- A text in a format. -/
def formatText (s : Spec) (p : Points) : Run Points := do
  if s.sign.isSome || s.alternate || s.grouping.isSome || s.align == some '=' || bitLimit < s.width then
    Run.abrupt .beyond
  let laid := s.pad '<' [] (p.take (s.precision.getD p.length))
  match s.kind with
  | none => return laid
  | some 's' => return laid
  | some k => unknownFormat k "str"

/-- The format that a text spells for a value of a class; one with a part that is left out goes beyond. -/
def specFor (usual : Char) (name : String) (spec : Points) : Run Spec := do
  match spec.toString? with
  | none => Run.abrupt .beyond
  | some spec =>
    let s := spec.toList
    -- a number of digits that is missing, a second mark for grouping, a zero without a sign
    let isOdd (a b : Char) : Bool :=
      (a == '.' && !b.isDigit) || ((a == ',' || a == '_') && (b == ',' || b == '_'))
    if (s.zip (s.drop 1)).any (fun (a, b) => isOdd a b) || s.getLast? == some '.' || s.contains 'z' then
      Run.abrupt .beyond
    else
      match Spec.ofChars? usual s with
      | some s => return s
      | none =>
        Run.raise "ValueError" ("Invalid format specifier '" ++ spec ++ "' for object of type '" ++ name ++
          "'")

namespace Engine

/-- A value in a format, unless its class has a method for that. -/
def laidOut (E : Engine) (v : Value) (spec : Points) : Run Points := do
  match v, spec with
  | .str p, [] => return p
  | v, [] => E.text v
  | v, spec =>
    let name ← Run.reading fun m => m.typeName v
    match v with
    | .int n => do formatInt (← specFor '>' name spec) name n
    | .bool b => do formatInt (← specFor '>' name spec) name (if b then 1 else 0)
    | .float x => do formatFloat (← specFor '>' name spec) name x
    | .str p => do formatText (← specFor '<' name spec) p
    | _ => Run.raise "TypeError" ("unsupported format string passed to " ++ name ++ ".__format__")

/-- A value in a format. -/
def formatted (E : Engine) (v : Value) (spec : Points) : Run Points := do
  match ← Run.reading fun m => m.method? v "__format__" with
  | none => E.laidOut v spec
  | some f =>
    match ← E.call f [v, .str spec] [] with
    | .str p => return p
    | v =>
      let name ← Run.reading fun m => m.typeName v
      Run.raise "TypeError" ("__format__ must return a str, not " ++ name)

/-- A text as it is written in a program, if no character has to be written in another way for that. -/
def asciiOf (p : Points) : Run Points :=
  if p.all fun n => decide (n < 128) then return p else Run.abrupt .beyond

/-- A value converted before it is laid out. -/
def converted (E : Engine) (conversion : Option Char) (v : Value) : Run Value := do
  match conversion with
  | none => return v
  | some 's' => return .str (← E.text v)
  | some 'r' => return .str (← E.shown v)
  | some 'a' => return .str (← asciiOf (← E.shown v))
  | some _ => Run.abrupt .beyond

/-! ## Texts with places for values -/

/-- What stands between a percent sign and the kind of its place. -/
structure Place where
  flags : Points
  width : Nat
  precision : Option Nat

namespace Place

/-- Does the place ask for something? -/
def has (s : Place) (flag : Nat) : Bool := s.flags.contains flag

/-- The format of a place. -/
def spec (s : Place) (isNumber : Bool) (kind : Option Char) : Spec :=
  let zeros := s.has 48 && isNumber && !s.has 45
  { fill := if zeros then 48 else 32
    align := some (if s.has 45 then '<' else if zeros then '=' else '>')
    sign := if s.has 43 then some '+' else if s.has 32 then some ' ' else none
    alternate := s.has 35
    width := s.width
    grouping := none
    precision := if isNumber then s.precision else none
    kind }

/-- A text in a place. -/
def text (s : Place) (p : Points) : Run Points :=
  if bitLimit < s.width then Run.abrupt .beyond
  else return (s.spec false none).pad '>' [] (p.take (s.precision.getD p.length))

/-- A number in a place for doubles. -/
def real (s : Place) (kind : Char) (v : Value) : Run Points := do
  match v.float? with
  | some x =>
    if x.abs < Decimal.infinity then formatFloat (s.spec true (some kind)) "float" x
    else Run.abrupt .beyond
  | none =>
    let name ← Run.reading fun m => m.typeName v
    Run.raise "TypeError" ("must be real number, not " ++ name)

/-- A number in a place for whole numbers. -/
def whole (s : Place) (kind : Char) (v : Value) : Run Points := do
  let laid (n : Int) : Run Points :=
    if s.precision.isSome then Run.abrupt .beyond else formatInt (s.spec true (some kind)) "int" n
  match v.int?, v with
  | some n, _ => laid n
  | none, .float x =>
    if kind != 'd' then Run.raise "TypeError" ("%" ++ String.singleton kind ++
      " format: an integer is required, not float")
    else if x.abs < Decimal.infinity then laid (Decimal.truncate x)
    else Run.abrupt .beyond
  | none, v =>
    match ← Run.reading fun m => m.method? v "__int__" with
    | some _ => Run.abrupt .beyond
    | none =>
      let name ← Run.reading fun m => m.typeName v
      let what := if kind == 'd' then "a real number is required" else "an integer is required"
      Run.raise "TypeError" ("%" ++ String.singleton kind ++ " format: " ++ what ++ ", not " ++ name)

end Place

/-- A value in a place of a kind; the number is where the kind stands. -/
def inPlace (E : Engine) (s : Place) (k at_ : Nat) (v : Value) : Run Points := do
  let kind := Char.ofNat k
  match kind with
  | 's' => do s.text (← E.text v)
  | 'r' => do s.text (← E.shown v)
  | 'a' => do s.text (← asciiOf (← E.shown v))
  | 'c' =>
    match v with
    | .str [c] => s.text [c]
    | _ => Run.abrupt .beyond
  | 'f' => s.real kind v
  | 'F' => s.real kind v
  | 'x' => s.whole kind v
  | 'X' => s.whole kind v
  | 'o' => s.whole kind v
  | 'd' => s.whole 'd' v
  | 'i' => s.whole 'd' v
  | 'u' => s.whole 'd' v
  | kind =>
    if "eEgG".toList.contains kind then Run.abrupt .beyond
    else
      Run.raise "ValueError" ("unsupported format character '" ++ String.singleton kind ++ "' (0x" ++
        String.ofList (Nat.toDigits 16 k) ++ ") at index " ++ toString at_)

/-- A text with places marked by a percent sign, where the values are put into, and the values that are left;
the length of the whole text is given. -/
def percent (E : Engine) (length : Nat) : Nat → Points → List Value → Run (Points × List Value)
  | 0, _, vs => return ([], vs)
  | _ + 1, [], vs => return ([], vs)
  | n + 1, 37 :: 37 :: rest, vs => do
    let (tail, vs) ← percent E length n rest vs
    return (37 :: tail, vs)
  | n + 1, 37 :: rest, vs => do
    let flags := rest.takeWhile fun c => [45, 43, 32, 35, 48].contains c
    let rest := rest.drop flags.length
    let isDigit (c : Nat) : Bool := 48 ≤ c && c ≤ 57
    let number (p : Points) : Nat := Decimal.digitsValue ((p.takeWhile isDigit).map Char.ofNat)
    let width := number rest
    let rest := rest.dropWhile isDigit
    let (precision, rest) := match rest with
      | 46 :: r => (some (number r), r.dropWhile isDigit)
      | r => (none, r)
    match rest with
    | [] => Run.raise "ValueError" "incomplete format"
    | k :: rest =>
      -- a key, a number taken from the values, marks of size, and a percent sign behind flags
      if "(*hlL%".toList.contains (Char.ofNat k) then Run.abrupt .beyond
      match vs with
      | [] => Run.raise "TypeError" "not enough arguments for format string"
      | v :: vs =>
        let shown ← E.inPlace ⟨flags, width, precision⟩ k (length - (rest.length + 1)) v
        let (tail, vs) ← percent E length n rest vs
        return (shown ++ tail, vs)
  | n + 1, c :: rest, vs => do
    let (tail, vs) ← percent E length n rest vs
    return (c :: tail, vs)

/-- May a value be left over, because places could ask for parts of it by their keys? -/
def hasKeys (v : Value) : Run Bool := do
  match v with
  | .bytes _ => return true
  | .range .. => return true
  | .ref at_ =>
    match ← Run.obj at_ with
    | .list _ => return true
    | .dict _ => return true
    | _ => return (← Run.reading fun m => m.method? v "__getitem__").isSome
  | _ => return false

/-- A text with values put into its places. -/
def percentText (E : Engine) (p : Points) (v : Value) : Run Value := do
  let vs := match v with
    | .tuple vs => vs
    | v => [v]
  let (text, left) ← E.percent p.length (p.length + 1) p vs
  if !left.isEmpty && !(← hasKeys v) then
    Run.raise "TypeError" "not all arguments converted during string formatting"
  return .str text

/-- An operation between two values. -/
def binary (E : Engine) (op : BinOp) (sign : String) (a b : Value) : Run Value := do
  match ← Run.reading fun m => m.method? a op.method with
  | some f => E.call f [a, b] []
  | none =>
    match op, a with
    | .mod, .str p => E.percentText p b
    | _, _ => plainBinary op sign a b

/-- How the places of a text find their values. -/
inductive Numbering where
  /-- each place takes the next value -/
  | inTurn (next : Nat)
  /-- the places have numbers -/
  | byNumber

/-- The value of a place in braces, and how the places after it find theirs. -/
def placeValue (args : List Value) (named : List (String × Value)) (numbering : Numbering)
    (field : List Char) : Run (Value × Numbering) := do
  let place (i : Nat) : Run Value :=
    match args[i]? with
    | some v => return v
    | none =>
      Run.raise "IndexError" ("Replacement index " ++ toString i ++
        " out of range for positional args tuple")
  if field.isEmpty then
    match numbering with
    | .inTurn i => return (← place i, .inTurn (i + 1))
    | .byNumber => Run.abrupt .beyond
  else if field.all Char.isDigit then
    match numbering with
    | .inTurn (_ + 1) => Run.abrupt .beyond
    | _ => return (← place (Decimal.digitsValue field), .byNumber)
  else if field.all fun c => c.toNat < 128 && c != '.' && c != '[' && c != '\x7b' then
    match named.find? fun a => a.1 == String.ofList field with
    | some (_, v) => return (v, numbering)
    | none => Run.raiseWith "KeyError" [.str (field.map Char.toNat)]
  else Run.abrupt .beyond

/-- A text with places in braces. -/
def braces (E : Engine) (args : List Value) (named : List (String × Value)) :
    Nat → Numbering → Points → Run Points
  | 0, _, _ => return []
  | _ + 1, _, [] => return []
  | n + 1, next, 123 :: 123 :: rest => do return 123 :: (← braces E args named n next rest)
  | n + 1, next, 125 :: 125 :: rest => do return 125 :: (← braces E args named n next rest)
  | _ + 1, _, 125 :: _ => Run.raise "ValueError" "Single '\x7d' encountered in format string"
  | n + 1, next, 123 :: rest => do
    let inside := rest.takeWhile (· != 125)
    match rest.dropWhile (· != 125) with
    | [] =>
      Run.raise "ValueError" (if inside.isEmpty then "Single '\x7b' encountered in format string"
        else "expected '\x7d' before end of string")
    | _ :: after =>
      let field := inside.takeWhile fun c => c != 58 && c != 33
      if inside.contains 123 then Run.abrupt .beyond
      let (conversion, spec) ← match inside.drop field.length with
        | [] => pure (none, [])
        | 58 :: spec => pure (none, spec)
        | [33, c] => pure (some (Char.ofNat c), [])
        | 33 :: c :: 58 :: spec => pure (some (Char.ofNat c), spec)
        | _ => Run.abrupt .beyond
      let (v, next) ← placeValue args named next (field.map Char.ofNat)
      let v ← E.converted conversion v
      return (← E.formatted v spec) ++ (← braces E args named n next after)
  | n + 1, next, c :: rest => do return c :: (← braces E args named n next rest)

end Engine

end Snippet.Guest
