import Snippet.Guest.Value
import Snippet.Guest.LeftOut
import Snippet.Text.Printable
import Snippet.Decimal.Layout
/-!
Values of guest programs as text.

A value has two texts: one for people, and one as it would be written in a program. They differ for text
itself and for exceptions.
-/

namespace Snippet.Guest

open Snippet.Text

/-- Text of the machine as code points. -/
abbrev pts (s : String) : Points := Points.ofString s

/-- Numbers in programs: positional from four places below the point to sixteen digits before it. -/
def floatLayout : Decimal.Layout where
  positionalFrom := -4
  positionalTo := 15
  wholeSuffix := ".0"
  exponentWidth := 2
  signedZero := true
  nan := "nan"
  infinity := "inf"

/-- A number in hexadecimal digits, filled up with zeros. -/
def hexPadded (width n : Nat) : String :=
  Decimal.padZeros width (String.ofList (Nat.toDigits 16 n))

/-- A code point inside quotes. -/
def quotedPoint (quote : Nat) (n : Nat) : Points :=
  if n == 92 || n == quote then [92, n]
  else if n == 10 then pts "\\n"
  else if n == 13 then pts "\\r"
  else if n == 9 then pts "\\t"
  else if isPrintable n then [n]
  else if n < 0x100 then pts ("\\x" ++ hexPadded 2 n)
  else if n < 0x10000 then pts ("\\u" ++ hexPadded 4 n)
  else pts ("\\U" ++ hexPadded 8 n)

/-- The quotes of a text: single ones, unless the text has those and no double ones. -/
def quoteFor (p : Points) : Nat := if p.contains 39 && !p.contains 34 then 34 else 39

/-- A text in quotes. -/
def quotedText (p : Points) : Points :=
  let quote := quoteFor p
  quote :: p.flatMap (quotedPoint quote) ++ [quote]

/-- Bytes in quotes. -/
def quotedBytes (p : Points) : Points :=
  let quote := quoteFor p
  98 :: quote :: (p.flatMap fun n =>
    if 0x80 ≤ n then pts ("\\x" ++ hexPadded 2 n) else quotedPoint quote n) ++ [quote]

/-- The texts joined by commas. -/
def commaJoined : List Points → Points
  | [] => []
  | [p] => p
  | p :: rest => p ++ pts ", " ++ commaJoined rest

/-- The items of a tuple in brackets. -/
def tupleText : List Points → Points
  | [p] => pts "(" ++ p ++ pts ",)"
  | ps => pts "(" ++ commaJoined ps ++ pts ")"

/-- The most digits that a whole number is written with. -/
def digitLimit : Nat := 4300

/-- A whole number as text. -/
def intPoints (n : Int) : Run Points := do
  let s := Decimal.intText n
  if s.length > digitLimit + 1 then
    Run.raise "ValueError" ("Exceeds the limit (4300 digits) for integer string conversion; " ++
      "use sys.set_int_max_str_digits() to increase the limit")
  else return pts s

namespace Engine

/-- The text that a method of the program answers with. -/
def textOf (method : String) (v : Value) : Run Points := do
  match v with
  | .str p => return p
  | v =>
    let name ← Run.reading fun m => m.typeName v
    Run.raise "TypeError" (method ++ " returned non-string (type " ++ name ++ ")")

/-- The text of an exception by a rule, given its arguments and what is kept with it. -/
def exceptionText (E : Engine) (rule : String) (args : List Value) (fields : Attrs) : Run Points := do
  let kept (x : String) : Value := ((fields.find? fun a => a.1 == x).map (·.2)).getD .none
  let byArguments : Run Points := do
    match args with
    | [] => return []
    | [a] => E.text a
    | args => return tupleText (← args.mapM E.shown)
  match rule, args with
  | "KeyError", [a] => E.shown a
  | "SyntaxError", _ => E.text (kept "msg")
  | "ImportError", _ =>
    match kept "msg" with
    | .str p => return p
    | _ => byArguments
  | "OSError", _ =>
    let has (x : String) : Bool := fields.any fun a => a.1 == x
    let front : Run Points := do
      return pts "[Errno " ++ (← E.text (kept "errno")) ++ pts "] " ++ (← E.text (kept "strerror"))
    match kept "filename" with
    | .none => if has "errno" && has "strerror" then front else byArguments
    | file => return (← front) ++ pts ": " ++ (← E.shown file)
  | _, _ => byArguments

/-- The rules that an exception of a class follows. -/
def ruleFor (m : Machine) (c : Value) : String := ruleOf fun x => m.below c (.cls x)

/-- The name of a class with that of its module, unless every program has it. -/
def fullName (m : Machine) (c : Value) : Points :=
  match c with
  | .cls "UnsupportedOperation" => pts "io.UnsupportedOperation"
  | .cls name => pts name
  | c =>
    match m.ownAttr? c "__qualname__" with
    | some (.str p) => pts "__main__." ++ p
    | _ => pts ("__main__." ++ m.className c)

/-- The text of a class. -/
def classText (m : Machine) (c : Value) : Points := pts "<class '" ++ fullName m c ++ pts "'>"

/-- The text of an object as it would be written in a program. -/
def shownObject (E : Engine) (v : Value) (o : Obj) : Run Points := do
  match ← Run.reading fun m => m.method? v "__repr__" with
  | some f => textOf "__repr__" (← E.call f [v] [])
  | none =>
    match o with
    | .list items => return pts "[" ++ commaJoined (← items.toList.mapM E.shown) ++ pts "]"
    | .dict items =>
      let ps ← items.mapM fun (k, v) => do return (← E.shown k) ++ pts ": " ++ (← E.shown v)
      return pts "\x7b" ++ commaJoined ps ++ pts "\x7d"
    | .view dict kind =>
      match ← Run.obj dict with
      | .dict items =>
        let ps ← items.mapM fun item => E.shown (viewed kind item)
        return pts ("dict_" ++ kind ++ "([") ++ commaJoined ps ++ pts "])"
      | _ => Run.abrupt .beyond
    | .klass .. => Run.reading fun m => classText m v
    | .exception c args _ _ =>
      let name ← Run.reading fun m => m.className c
      let ps ← args.mapM E.shown
      return pts name ++ pts "(" ++ commaJoined ps ++ pts ")"
    -- others are known by where they are, which is not modelled
    | _ => Run.abrupt .beyond

/-- The text of a value as it would be written in a program. -/
def shownRule (E : Engine) (v : Value) : Run Points := do
  match v with
  | .none => return pts "None"
  | .ellipsis => return pts "Ellipsis"
  | .bool b => return pts (if b then "True" else "False")
  | .int n => intPoints n
  | .float x => return pts (floatLayout.write x)
  | .str p => return quotedText p
  | .bytes p => return quotedBytes p
  | .tuple items => return tupleText (← items.mapM E.shown)
  | .range a b 1 => return pts "range(" ++ (← intPoints a) ++ pts ", " ++ (← intPoints b) ++ pts ")"
  | .range a b s =>
    return pts "range(" ++ (← intPoints a) ++ pts ", " ++ (← intPoints b) ++ pts ", " ++
      (← intPoints s) ++ pts ")"
  | .cls _ => Run.reading fun m => classText m v
  | .native name =>
    if name.toList.contains '.' || name == "exit" || name == "quit" || classLike.contains name then
      Run.abrupt .beyond
    else return pts ("<built-in function " ++ name ++ ">")
  | .asker _ => Run.abrupt .beyond
  | .bound _ _ => Run.abrupt .beyond
  | .ref at_ =>
    let o ← Run.obj at_
    E.shownObject v o

/-- The text of a value for people. -/
def textRule (E : Engine) (v : Value) : Run Points := do
  match v with
  | .str p => return p
  | .ref at_ =>
    match ← Run.reading fun m => m.method? v "__str__" with
    | some f => textOf "__str__" (← E.call f [v] [])
    | none =>
      match ← Run.obj at_ with
      | .exception c args fields _ =>
        E.exceptionText (← Run.reading fun m => ruleFor m c) args fields
      | _ => E.shown v
  | v => E.shown v

end Engine

end Snippet.Guest
