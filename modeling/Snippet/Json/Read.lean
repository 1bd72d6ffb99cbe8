import Snippet.Json.Basic
import Snippet.Decimal.Reading
/-!
Reading JSON text.

The grammar is the standard one; a `Dialect` says what a reader adds or refuses. The reader works on
a list of characters and is bounded by the length of its input, so it always answers.
-/

namespace Snippet.Json

open Snippet.Text

/-- A number as it is written: `digits * 10 ^ exponent`, negated where a minus sign stands first. -/
structure Literal where
  /-- a minus sign stands first -/
  negative : Bool
  /-- all digits, as a number -/
  digits : Nat
  /-- the power of ten they are scaled by -/
  exponent : Int
  /-- there is neither a fraction nor an exponent -/
  whole : Bool
  deriving Repr, DecidableEq

/-- What a reader accepts beyond the common grammar. -/
structure Dialect where
  /-- how deep arrays and objects may nest -/
  depth : Nat
  /-- `NaN`, `Infinity` and `-Infinity` are numbers -/
  nonFinite : Bool
  /-- whole numbers of any size are kept exactly; otherwise those outside 64 bits, and minus zero,
  are doubles -/
  bigWhole : Bool
  deriving Repr

/-- The double that a literal denotes. -/
def Literal.toFloat (l : Literal) : Float :=
  let x := Decimal.nearest l.digits l.exponent
  if l.negative then -x else x

/-- The number that a literal denotes. -/
def Dialect.number (d : Dialect) (l : Literal) : Num :=
  if l.whole then
    let n : Int := if l.negative then -(l.digits : Int) else l.digits
    if d.bigWhole || (-0x8000000000000000 ≤ n && n < 0x10000000000000000 && !(l.negative && n == 0)) then .int n
    else .float l.toFloat
  else .float l.toFloat

/-- The space between tokens. -/
def isSpace (c : Char) : Bool := c == ' ' || c == '\t' || c == '\n' || c == '\r'

/-- The rest after the space in front. -/
def skip (s : List Char) : List Char := s.dropWhile isSpace

/-- The value of a hexadecimal digit. -/
def hexValue? (c : Char) : Option Nat :=
  if '0' ≤ c ∧ c ≤ '9' then some (c.toNat - '0'.toNat)
  else if 'a' ≤ c ∧ c ≤ 'f' then some (c.toNat - 'a'.toNat + 10)
  else if 'A' ≤ c ∧ c ≤ 'F' then some (c.toNat - 'A'.toNat + 10)
  else none

/-- The number that four hexadecimal digits form. -/
def hex4? (a b c d : Char) : Option Nat := do
  return ((← hexValue? a) * 16 + (← hexValue? b)) * 256 + ((← hexValue? c) * 16 + (← hexValue? d))

/-- The character that a one-letter escape stands for. -/
def shortEscape? : Char → Option Nat
  | '"' => some 0x22
  | '\\' => some 0x5C
  | '/' => some 0x2F
  | 'b' => some 8
  | 'f' => some 12
  | 'n' => some 10
  | 'r' => some 13
  | 't' => some 9
  | _ => none

/-- The code points up to the closing quote, and the rest after it. Escaped surrogates are left as
they stand. -/
def rawString : List Char → Option (Points × List Char)
  | [] => none
  | '"' :: rest => some ([], rest)
  | '\\' :: 'u' :: a :: b :: c :: d :: rest => do
    let n ← hex4? a b c d
    let (ns, rest) ← rawString rest
    return (n :: ns, rest)
  | '\\' :: e :: rest => do
    let n ← shortEscape? e
    let (ns, rest) ← rawString rest
    return (n :: ns, rest)
  | c :: rest =>
    if c.toNat < 0x20 then none
    else do
      let (ns, rest) ← rawString rest
      return (c.toNat :: ns, rest)

/-- A text after its opening quote: its code points and the rest. -/
def string? (s : List Char) : Option (Points × List Char) :=
  (rawString s).map fun (ns, rest) => (ns.joinPairs, rest)

/-- The digits in front and the rest. -/
def digits (s : List Char) : List Char × List Char :=
  (s.takeWhile Char.isDigit, s.dropWhile Char.isDigit)

/-- The fraction in front, if there is one; a point must be followed by a digit. -/
def fraction? : List Char → Option (List Char × List Char)
  | '.' :: rest =>
    let (ds, rest) := digits rest
    if ds.isEmpty then none else some (ds, rest)
  | s => some ([], s)

/-- The exponent in front, if there is one; its mark must be followed by a digit. -/
def exponent? : List Char → Option (Option Int × List Char)
  | [] => some (none, [])
  | c :: rest =>
    if c == 'e' || c == 'E' then
      let (negative, rest) := match rest with
        | '-' :: r => (true, r)
        | '+' :: r => (false, r)
        | r => (false, r)
      let (ds, rest) := digits rest
      if ds.isEmpty then none
      else
        let n : Int := Decimal.digitsValue ds
        some (some (if negative then -n else n), rest)
    else some (none, c :: rest)

/-- The number in front, after its sign. -/
def unsigned? (negative : Bool) (s : List Char) : Option (Literal × List Char) := do
  let (whole, rest) := digits s
  if whole.isEmpty || (whole.head? == some '0' && 1 < whole.length) then none
  let (places, rest) ← fraction? rest
  let (shift, rest) ← exponent? rest
  return (⟨negative, Decimal.digitsValue (whole ++ places), shift.getD 0 - places.length,
    places.isEmpty && shift.isNone⟩, rest)

/-- The number in front. -/
def number? : List Char → Option (Literal × List Char)
  | '-' :: rest => unsigned? true rest
  | s => unsigned? false s

/-- A word in front, as a value. -/
def word? (d : Dialect) (s : List Char) : Option (Json Points × List Char) :=
  if "true".toList.isPrefixOf s then some (.bool true, s.drop 4)
  else if "false".toList.isPrefixOf s then some (.bool false, s.drop 5)
  else if "null".toList.isPrefixOf s then some (.null, s.drop 4)
  else if d.nonFinite && "NaN".toList.isPrefixOf s then
    some (.num (.float Decimal.notANumber), s.drop 3)
  else if d.nonFinite && "Infinity".toList.isPrefixOf s then
    some (.num (.float Decimal.infinity), s.drop 8)
  else if d.nonFinite && "-Infinity".toList.isPrefixOf s then
    some (.num (.float (-Decimal.infinity)), s.drop 9)
  else (number? s).map fun (l, rest) => (.num (d.number l), rest)

mutual

/-- The value in front, and the rest. The first number bounds the work, the second the nesting. -/
def readValue? (d : Dialect) : Nat → Nat → List Char → Option (Json Points × List Char)
  | 0, _, _ => none
  | work + 1, depth, s =>
    match s with
    | '"' :: rest => (string? rest).map fun (t, rest) => (.str t, rest)
    | '[' :: rest =>
      if depth = 0 then none
      else match skip rest with
        | ']' :: rest => some (.arr [], rest)
        | rest => (readItems? d work (depth - 1) rest).map fun (xs, rest) => (.arr xs, rest)
    | '{' :: rest =>
      if depth = 0 then none
      else match skip rest with
        | '}' :: rest => some (.obj [], rest)
        | rest => (readMembers? d work (depth - 1) rest).map fun (ms, rest) => (.obj ms, rest)
    | s => word? d s

/-- The items in front up to the closing bracket; at least one. -/
def readItems? (d : Dialect) : Nat → Nat → List Char → Option (List (Json Points) × List Char)
  | 0, _, _ => none
  | work + 1, depth, s => do
    let (x, rest) ← readValue? d work depth s
    match skip rest with
    | ']' :: rest => return ([x], rest)
    | ',' :: rest =>
      let (xs, rest) ← readItems? d work depth (skip rest)
      return (x :: xs, rest)
    | _ => none

/-- The members in front up to the closing brace; at least one. -/
def readMembers? (d : Dialect) :
    Nat → Nat → List Char → Option (List (Points × Json Points) × List Char)
  | 0, _, _ => none
  | work + 1, depth, s =>
    match s with
    | '"' :: rest => do
      let (name, rest) ← string? rest
      match skip rest with
      | ':' :: rest =>
        let (x, rest) ← readValue? d work depth (skip rest)
        match skip rest with
        | '}' :: rest => return ([(name, x)], rest)
        | ',' :: rest =>
          let (ms, rest) ← readMembers? d work depth (skip rest)
          return ((name, x) :: ms, rest)
        | _ => none
      | _ => none
    | _ => none

end

/-- The value that a text spells, if it spells exactly one. -/
def readChars (d : Dialect) (s : List Char) : Option (Json Points) := do
  let (v, rest) ← readValue? d (2 * s.length + 2) d.depth (skip s)
  if (skip rest).isEmpty then some v else none

/-- The value that a text spells, if it spells exactly one. -/
def read (d : Dialect) (s : String) : Option (Json Points) := readChars d s.toList

/-- The dialect of values that are taken over whole: nesting is limited. -/
def bounded : Dialect := ⟨127, false, false⟩

/-- The value that a text spells, if it spells exactly one, and some parts of it are to be picked: what is
passed over may nest as deep as the text is long. -/
def pick (s : List Char) : Option (Json Points) := readChars ⟨s.length, false, false⟩ s

/-- What is said of a text that ends where a value should begin. -/
def emptyText : String := "EOF while parsing a value at line 1 column 0"

/-- A value over ordinary text, taken over whole. -/
def readText (s : String) : Option (Json String) := (read bounded s).bind host?

end Snippet.Json
