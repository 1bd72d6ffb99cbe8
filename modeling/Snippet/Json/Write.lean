import Snippet.Json.Basic
import Snippet.Decimal.Layout
/-!
Writing JSON text.

A `Style` fixes how text is quoted and numbers are spelled; `write` puts a value on one line,
`pretty` spreads it over lines with two spaces for each level.
-/

namespace Snippet.Json

open Snippet.Text

/-- A hexadecimal digit. -/
def hexDigit (n : Nat) : Char := Nat.digitChar (n % 16)

/-- A 16-bit unit as an escape. -/
def unicodeEscape (n : Nat) : List Char :=
  ['\\', 'u', hexDigit (n / 4096), hexDigit (n / 256), hexDigit (n / 16), hexDigit n]

/-- The one-letter escape of a character that has one. -/
def shortEscape (n : Nat) : Option Char :=
  if n = 0x22 then some '"'
  else if n = 0x5C then some '\\'
  else if n = 8 then some 'b'
  else if n = 12 then some 'f'
  else if n = 10 then some 'n'
  else if n = 13 then some 'r'
  else if n = 9 then some 't'
  else none

/-- A character between quotes: quotes, backslashes and control characters are escaped, all else
stands for itself. -/
def escapeChar (c : Char) : List Char :=
  match shortEscape c.toNat with
  | some e => ['\\', e]
  | none => if c.toNat < 0x20 then unicodeEscape c.toNat else [c]

/-- Text between quotes, beyond ASCII as it stands. -/
def quoteChars (s : List Char) : List Char := '"' :: s.flatMap escapeChar ++ ['"']

/-- A code point between quotes in pure ASCII; beyond 16 bits as a pair of surrogates. -/
def escapePoint (n : Nat) : List Char :=
  match shortEscape n with
  | some e => ['\\', e]
  | none =>
    if 0x20 ≤ n ∧ n ≤ 0x7E then [Char.ofNat n]
    else if n < 0x10000 then unicodeEscape n
    else unicodeEscape (0xD800 + (n - 0x10000) / 0x400) ++
      unicodeEscape (0xDC00 + (n - 0x10000) % 0x400)

/-- Text between quotes in pure ASCII. -/
def quotePoints (p : Points) : List Char := '"' :: p.flatMap escapePoint ++ ['"']

/-- How values are spelled. -/
structure Style (σ : Type) where
  /-- a text between quotes -/
  quote : σ → List Char
  /-- what stands between two items -/
  comma : List Char
  /-- what stands between a name and its value -/
  colon : List Char
  /-- a double -/
  float : Float → String

/-- A number. -/
def Num.write (float : Float → String) : Num → List Char
  | .int n => (Decimal.intText n).toList
  | .float x => (float x).toList

/-- A truth value. -/
def boolWord (b : Bool) : List Char := (if b then "true" else "false").toList

mutual

/-- The value on one line. -/
def write {σ : Type} (f : Style σ) : Json σ → List Char
  | .null => "null".toList
  | .bool b => boolWord b
  | .num n => n.write f.float
  | .str s => f.quote s
  | .arr xs => '[' :: writeItems f xs ++ [']']
  | .obj ms => '{' :: writeMembers f ms ++ ['}']

/-- Items with what separates them. -/
def writeItems {σ : Type} (f : Style σ) : List (Json σ) → List Char
  | [] => []
  | [x] => write f x
  | x :: y :: rest => write f x ++ f.comma ++ writeItems f (y :: rest)

/-- Members with what separates them. -/
def writeMembers {σ : Type} (f : Style σ) : List (σ × Json σ) → List Char
  | [] => []
  | [(k, v)] => f.quote k ++ f.colon ++ write f v
  | (k, v) :: m :: rest => f.quote k ++ f.colon ++ write f v ++ f.comma ++ writeMembers f (m :: rest)

end

/-- A new line at a level of nesting. -/
def newline (level : Nat) : List Char := '\n' :: List.replicate (2 * level) ' '

mutual

/-- The value spread over lines. -/
def pretty {σ : Type} (f : Style σ) (level : Nat) : Json σ → List Char
  | .null => "null".toList
  | .bool b => boolWord b
  | .num n => n.write f.float
  | .str s => f.quote s
  | .arr [] => ['[', ']']
  | .arr (x :: xs) => '[' :: prettyItems f (level + 1) (x :: xs) ++ newline level ++ [']']
  | .obj [] => ['{', '}']
  | .obj (m :: ms) => '{' :: prettyMembers f (level + 1) (m :: ms) ++ newline level ++ ['}']

/-- Each item on a line of its own. -/
def prettyItems {σ : Type} (f : Style σ) (level : Nat) : List (Json σ) → List Char
  | [] => []
  | [x] => newline level ++ pretty f level x
  | x :: y :: rest => newline level ++ pretty f level x ++ [','] ++ prettyItems f level (y :: rest)

/-- Each member on a line of its own. -/
def prettyMembers {σ : Type} (f : Style σ) (level : Nat) : List (σ × Json σ) → List Char
  | [] => []
  | [(k, v)] => newline level ++ f.quote k ++ [':', ' '] ++ pretty f level v
  | (k, v) :: m :: rest =>
    newline level ++ f.quote k ++ [':', ' '] ++ pretty f level v ++ [','] ++
      prettyMembers f level (m :: rest)

end

/-- Doubles in reports: positional from five places below the point to sixteen digits before it, a
fraction always shown, and `null` for what is no number. -/
def reportFloat : Decimal.Layout where
  positionalFrom := -5
  positionalTo := 15
  wholeSuffix := ".0"
  exponentWidth := 1
  signedZero := true
  nan := "null"
  infinity := "null"

/-- A double in a report. -/
def reportNumber (x : Float) : String := if x.isFinite then reportFloat.write x else "null"

/-- The style of reports: no spaces, text beyond ASCII as it stands. -/
def report : Style String where
  quote s := quoteChars s.toList
  comma := [',']
  colon := [':']
  float := reportNumber

/-- A value on one line, in the style of reports. -/
def compact (v : Json String) : String := String.ofList (write report v)

/-- A value spread over lines, in the style of reports. -/
def indented (v : Json String) : String := String.ofList (pretty report 0 v)

end Snippet.Json
