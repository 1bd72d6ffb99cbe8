import Snippet.Script.Token
import Snippet.Decimal.Layout
/-!
Complaints about scripts that do not parse, and the number format of scripts.
-/

namespace Snippet.Script

open Snippet.Text

/-- Numbers in scripts: positional from six places below the point to twenty-one digits before it. -/
def numberLayout : Decimal.Layout where
  positionalFrom := -6
  positionalTo := 20
  wholeSuffix := ""
  exponentWidth := 1
  signedZero := false
  nan := "NaN"
  infinity := "Infinity"

/-- A number as scripts write it. -/
def numberText : Json.Num → String
  | .int n => Decimal.intText n
  | .float x => numberLayout.write x

/-- What is wrong with a script that does not parse. -/
inductive Complaint where
  /-- the script ends too early -/
  | abruptEnd
  /-- a token stands where none of its kind can; `what` says what was being read -/
  | unexpected (found : Token) (what : String)
  /-- another token should stand here -/
  | expected (wanted : List String) (found : Token) (what : String)
  /-- a rule beyond the grammar is broken -/
  | general (message : String) (line column : Nat)
  /-- a part of the script is no token -/
  | malformed (message : String)

/-- A token in a complaint. -/
def Lexeme.shown : Lexeme → String
  | .word s => s
  | .mark s => s
  | .num n => numberText n
  | .str s => s.escaped
  | .template s => s.escaped
  | .templateHead s => s.escaped
  | .templateMiddle s => s.escaped
  | .templateTail s => s.escaped
  | .bad message _ => message

/-- A place in a complaint. -/
def placeText (line column : Nat) : String :=
  " at line " ++ Decimal.natText line ++ ", col " ++ Decimal.natText column

/-- Alternatives in quotes. -/
def alternatives : List String → String
  | [] => ""
  | [last] => " or '" ++ last ++ "'"
  | s :: rest => ", '" ++ s ++ "'" ++ alternatives rest

/-- What was wanted, in words. -/
def wantedText : List String → String
  | [one] => "token '" ++ one ++ "'"
  | [] => "one of "
  | first :: rest => "one of '" ++ first ++ "'" ++ alternatives rest

/-- The wording of a complaint. -/
def Complaint.message : Complaint → String
  | .abruptEnd => "abrupt end"
  | .unexpected found what =>
    "unexpected token '" ++ found.lexeme.shown ++ "', " ++ what ++ placeText found.line found.column
  | .expected wanted found what =>
    "expected " ++ wantedText wanted ++ ", got '" ++ found.lexeme.shown ++ "' in " ++ what ++
      placeText found.line found.column
  | .general message line column => message ++ placeText line column
  | .malformed message => message

end Snippet.Script
