import Snippet.Script.Ast
import Snippet.Json.Read
import Snippet.Text.Blank
/-!
Cutting a script into tokens.

Every character carries its place, so that a complaint can name line and column. A part that is no
token becomes a `bad` one, which is complained about only when the parser reaches it. Text with values
in between is cut into a head, middles and a tail; a stack remembers in which braces they stand.
-/

namespace Snippet.Script

open Snippet.Text

/-- A character and its place; lines and columns count from one. -/
structure Spot where
  char : Char
  line : Nat
  column : Nat
  deriving Repr, DecidableEq

/-- Does the character end a line? -/
def isLineEnd (c : Char) : Bool :=
  c == '\n' || c == '\r' || c == '\u2028' || c == '\u2029'

/-- Does the character separate tokens without ending a line? -/
def isGap (c : Char) : Bool := !isLineEnd c && (isBlank c || c == '\uFEFF') && c != '\u0085'

/-- Every character with its place. -/
def locate (line column : Nat) : List Char → List Spot
  | [] => []
  | [c] => [⟨c, line, column⟩]
  | c :: next :: rest =>
    ⟨c, line, column⟩ ::
      if isLineEnd c && !(c == '\r' && next == '\n') then locate (line + 1) 1 (next :: rest)
      else locate line (column + 1) (next :: rest)

/-- The kinds of tokens. -/
inductive Lexeme where
  /-- a name or a reserved word -/
  | word (s : String)
  | mark (s : String)
  | num (n : Json.Num)
  | str (s : Units)
  /-- text without values in between -/
  | template (s : Units)
  /-- text up to the first value in between -/
  | templateHead (s : Units)
  /-- text between two values -/
  | templateMiddle (s : Units)
  /-- text after the last value -/
  | templateTail (s : Units)
  /-- no token; the message says why, and the place, if there is one, where that shows -/
  | bad (message : String) (place : Option (Nat × Nat))
  deriving Repr

/-- A token and its place. -/
structure Token where
  lexeme : Lexeme
  line : Nat
  column : Nat
  /-- a line ended between the token before and this one -/
  afterLine : Bool
  deriving Repr

/-! ## Characters -/

/-- Can a name begin with the character? -/
def isNameStart (c : Char) : Bool :=
  c.isAlpha || c == '$' || c == '_' || (0x80 ≤ c.toNat && !isGap c && !isLineEnd c)

/-- Can a name go on with the character? -/
def isNamePart (c : Char) : Bool := isNameStart c || c.isDigit

/-- The marks, longer ones before their beginnings. -/
def marks : List String :=
  [">>>=", "...", "===", "!==", "**=", "<<=", ">>=", ">>>", "&&=", "||=", "??=",
    "=>", "==", "!=", "<=", ">=", "&&", "||", "??", "++", "--", "+=", "-=", "*=", "/=", "%=", "&=",
    "|=", "^=", "<<", ">>", "**",
    "\x7b", "\x7d", "(", ")", "[", "]", ";", ",", "<", ">", "+", "-", "*", "/", "%", "&", "|", "^",
    "!", "~", "?", ":", "=", "."]

/-- Do the characters begin with the text? -/
def begins (text : List Char) : List Spot → Bool
  | s =>
    match text, s with
    | [], _ => true
    | _ :: _, [] => false
    | c :: cs, x :: xs => c == x.char && begins cs xs

/-- The mark in front. -/
def mark? (s : List Spot) : Option String :=
  marks.find? fun m => begins m.toList s

/-! ## Numbers -/

/-- A whole number of at most 32 bits stays whole, every other one is a double. -/
def literalNumber (digits : Nat) (exponent : Int) : Json.Num :=
  let whole? : Option Nat :=
    if 0 ≤ exponent then (if exponent ≤ 10 then some (digits * Nat.pow 10 exponent.toNat) else none)
    else if exponent.natAbs ≤ 400 ∧ digits % Nat.pow 10 exponent.natAbs = 0 then
      some (digits / Nat.pow 10 exponent.natAbs)
    else none
  match whole? with
  | some n => if n < 0x80000000 then .int n else .float (Decimal.nearest digits exponent)
  | none => if digits = 0 then .int 0 else .float (Decimal.nearest digits exponent)

/-- The value of digits in a base. -/
def baseValue (base : Nat) (s : List Char) : Nat :=
  s.foldl (fun n c => base * n + (Json.hexValue? c).getD 0) 0

/-- Is the character a digit in the base? -/
def isBaseDigit (base : Nat) (c : Char) : Bool :=
  match Json.hexValue? c with
  | some n => n < base
  | none => false

/-- The characters without their places. -/
def chars (s : List Spot) : List Char := s.map (·.char)

/-- The digits in front and the rest; underscores between digits do not count. -/
def digitsOf (base : Nat) (s : List Spot) : List Char × List Spot :=
  let p (x : Spot) := isBaseDigit base x.char || x.char == '_'
  ((chars (s.takeWhile p)).filter (· != '_'), s.dropWhile p)

/-- The place right after a character. -/
def Spot.after (x : Spot) : Nat × Nat :=
  if isLineEnd x.char then (x.line + 1, 1) else (x.line, x.column + 1)

/-- The place at which what is left of some characters begins. -/
def restPlace (all rest : List Spot) : Option (Nat × Nat) :=
  match rest with
  | x :: _ => some (x.line, x.column)
  | [] => all.getLast?.map Spot.after

/-- What is said of a number that runs into a name. -/
def runsOn : String := "a numeric literal must not be followed by an alphanumeric, $ or _ characters"

/-- A number is finished only if no name follows. -/
def finishNumber (n : Json.Num) (rest : List Spot) : Lexeme × List Spot :=
  match rest with
  | x :: _ => if isNamePart x.char then (.bad runsOn (some (x.line, x.column)), []) else (.num n, rest)
  | [] => (.num n, rest)

/-- The exponent in front, nought if there is none; or what is wrong with it, and what is left there. -/
def exponentOf (s : List Spot) : Except (String × List Spot) (Int × List Spot) :=
  match s with
  | e :: rest =>
    if e.char == 'e' || e.char == 'E' then
      let signed (sign : String) (factor : Int) (r : List Spot) :
          Except (String × List Spot) (Int × List Spot) :=
        let (ds, rest) := digitsOf 10 r
        if ds.isEmpty then .error ("No digit found after " ++ sign ++ " symbol", r)
        else .ok (factor * Decimal.digitsValue ds, rest)
      match rest with
      | [] => .error ("No exponential value found", [])
      | x :: r =>
        if x.char == '-' then signed "-" (-1) r
        else if x.char == '+' then signed "+" 1 r
        else
          let (ds, after) := digitsOf 10 rest
          if ds.isEmpty then .error ("When lexing exponential value found unexpected char", r)
          else .ok (Decimal.digitsValue ds, after)
    else .ok (0, s)
  | [] => .ok (0, s)

/-- The number in front. -/
def scanNumber (s : List Spot) : Lexeme × List Spot :=
  let based (base : Nat) (kind : String) : Lexeme × List Spot :=
    let (ds, rest) := digitsOf base (s.drop 2)
    if ds.isEmpty then
      (.bad ("expected " ++ kind ++ " digit after number base prefix") (restPlace s (s.drop 2)), [])
    else finishNumber (literalNumber (baseValue base ds) 0) rest
  let mode := if begins ['0'] s then (chars (s.take 2)).getLast?.map Char.toLower else none
  let (ds, after) := digitsOf 10 s
  if mode == some 'x' then based 16 "hexadecimal"
  else if mode == some 'o' then based 8 "octal"
  else if mode == some 'b' then based 2 "binary"
  else if begins ['0'] s && 1 < ds.length && ds.all (isBaseDigit 8) then
    finishNumber (literalNumber (baseValue 8 ds) 0) after
  else
    let (whole, rest) := digitsOf 10 s
    let (places, rest) := match rest with
      | x :: r => if x.char == '.' then digitsOf 10 r else ([], rest)
      | [] => ([], rest)
    match exponentOf rest with
    | .error (message, rest) => (.bad message (restPlace s rest), [])
    | .ok (shift, rest) =>
      finishNumber (literalNumber (Decimal.digitsValue (whole ++ places)) (shift - places.length))
        rest

/-! ## Text -/

/-- What keeps text from being read. -/
inductive TextFault where
  /-- it does not end -/
  | endless
  /-- an escape in it is malformed; the message says how -/
  | escape (message : String)
  deriving Repr, DecidableEq

/-- The value of an escape after its backslash, and the rest. -/
def escape? (s : List Spot) : Except TextFault (Units × List Spot) :=
  match s with
  | [] => .error .endless
  | e :: rest =>
    match e.char with
    | 'n' => .ok ([10], rest)
    | 't' => .ok ([9], rest)
    | 'r' => .ok ([13], rest)
    | 'b' => .ok ([8], rest)
    | 'f' => .ok ([12], rest)
    | 'v' => .ok ([11], rest)
    | 'x' =>
      let ds := chars (rest.take 2)
      if ds.length == 2 && ds.all (isBaseDigit 16) then .ok ([baseValue 16 ds], rest.drop 2)
      else .error (.escape "invalid Hexadecimal escape sequence")
    | 'u' =>
      if begins ['\x7b'] rest then
        let ds := chars ((rest.drop 1).takeWhile fun x => isBaseDigit 16 x.char)
        let after := (rest.drop 1).dropWhile fun x => isBaseDigit 16 x.char
        if !begins ['\x7d'] after || ds.isEmpty then
          .error (.escape "malformed Unicode character escape sequence")
        else if 0x10FFFF < baseValue 16 ds then
          .error (.escape
            "Unicode codepoint must not be greater than 0x10FFFF in escape sequence")
        else .ok (Units.ofPoint (baseValue 16 ds), after.drop 1)
      else
        let ds := chars (rest.take 4)
        if ds.length == 4 && ds.all (isBaseDigit 16) then .ok ([baseValue 16 ds], rest.drop 4)
        else .error (.escape "invalid Unicode escape sequence")
    | '\r' => .ok ([], if begins ['\n'] rest then rest.drop 1 else rest)
    | c =>
      if isBaseDigit 8 c then
        let most := if c.toNat < '4'.toNat then 3 else 2
        let ds := chars ((s.take most).takeWhile fun x => isBaseDigit 8 x.char)
        .ok ([baseValue 8 ds], s.drop ds.length)
      else if isLineEnd c then .ok ([], rest)
      else .ok (Units.ofPoint c.toNat, rest)

/-- The text up to the closing quote. The number bounds the work. -/
def scanString (quote : Char) : Nat → List Spot → Except TextFault (Units × List Spot)
  | 0, _ => .error .endless
  | _, [] => .error .endless
  | fuel + 1, x :: rest =>
    if x.char == quote then .ok ([], rest)
    else if x.char == '\n' || x.char == '\r' then .error .endless
    else if x.char == '\\' then do
      let (u, rest) ← escape? rest
      let (us, rest) ← scanString quote fuel rest
      return (u ++ us, rest)
    else do
      let (us, rest) ← scanString quote fuel rest
      return (Units.ofPoint x.char.toNat ++ us, rest)

/-- The text of a template up to its end or to a value in between, which is told apart by the flag. -/
def scanTemplate : Nat → List Spot → Except TextFault (Units × Bool × List Spot)
  | 0, _ => .error .endless
  | _, [] => .error .endless
  | fuel + 1, x :: rest =>
    if x.char == '\x60' then .ok ([], true, rest)
    else if x.char == '$' && begins ['\x7b'] rest then .ok ([], false, rest.drop 1)
    else if x.char == '\\' then do
      let (u, rest) ← escape? rest
      let (us, ended, rest) ← scanTemplate fuel rest
      return (u ++ us, ended, rest)
    else
      let (c, rest) := if x.char == '\r' then
          ('\n', if begins ['\n'] rest then rest.drop 1 else rest)
        else (x.char, rest)
      do
        let (us, ended, rest) ← scanTemplate fuel rest
        return (Units.ofPoint c.toNat ++ us, ended, rest)

/-! ## Gaps -/

/-- The characters after a comment that may span lines, and whether a line ended in it. -/
def skipComment : List Spot → Option (Bool × List Spot)
  | [] => none
  | x :: rest =>
    if x.char == '*' && begins ['/'] rest then some (false, rest.drop 1)
    else (skipComment rest).map fun (ended, rest) => (ended || isLineEnd x.char, rest)

/-- The characters after gaps and comments, and whether a line ended in them; none if a comment does
not end. -/
def skipGaps : Nat → Bool → List Spot → Option (Bool × List Spot)
  | 0, ended, s => some (ended, s)
  | _, ended, [] => some (ended, [])
  | fuel + 1, ended, x :: rest =>
    if isLineEnd x.char then skipGaps fuel true rest
    else if isGap x.char then skipGaps fuel ended rest
    else if begins ['/', '/'] (x :: rest) then
      skipGaps fuel ended (rest.dropWhile fun y => !isLineEnd y.char)
    else if begins ['/', '*'] (x :: rest) then
      match skipComment (rest.drop 1) with
      | some (line, rest) => skipGaps fuel (ended || line) rest
      | none => none
    else some (ended, x :: rest)

/-! ## Tokens -/

/-- What takes the place of a token whose text cannot be read. -/
def TextFault.lexeme (fault : TextFault) (what : String) (start : Spot) : Lexeme :=
  match fault with
  | .endless => .bad ("unterminated " ++ what) none
  | .escape message => .bad message (some (start.line, start.column))

/-- One token, which begins at the first character; the stack holds, for each brace that is open,
whether a template goes on after it. -/
def scanOne (fuel : Nat) (stack : List Bool) (s : List Spot) : Lexeme × List Bool × List Spot :=
  match s with
  | [] => (.bad "abrupt end" none, stack, [])
  | x :: rest =>
    let c := x.char
    let templated (whole : Bool) (r : Except TextFault (Units × Bool × List Spot))
        (stack : List Bool) : Lexeme × List Bool × List Spot :=
      match r with
      | .error fault => (fault.lexeme "template literal" x, stack, [])
      | .ok (u, true, rest) => (if whole then .template u else .templateTail u, stack, rest)
      | .ok (u, false, rest) =>
        (if whole then .templateHead u else .templateMiddle u, true :: stack, rest)
    if isNameStart c then
      (.word (String.ofList (chars (s.takeWhile fun y => isNamePart y.char))), stack,
        s.dropWhile fun y => isNamePart y.char)
    else if c.isDigit || (c == '.' && (rest.head?.any fun y => y.char.isDigit)) then
      let (lexeme, rest) := scanNumber s
      (lexeme, stack, rest)
    else if c == '"' || c == '\'' then
      match scanString c fuel rest with
      | .ok (u, rest) => (.str u, stack, rest)
      | .error fault => (fault.lexeme "string literal" x, stack, [])
    else if c == '\x60' then templated true (scanTemplate fuel rest) stack
    else if c == '\x7d' && stack.head? == some true then
      templated false (scanTemplate fuel rest) stack.tail
    else if c == '#' then
      let name := chars (rest.takeWhile fun y => isNamePart y.char)
      if rest.head?.any fun y => isNameStart y.char then
        (.mark (String.ofList ('#' :: name)), stack, rest.drop name.length)
      else (.bad "Abrupt end: Expecting private identifier" (some (x.line, x.column)), stack, [])
    else
      match mark? s with
      | none =>
        (.bad ("unexpected '" ++ c.toString ++ "' at line " ++ Decimal.natText x.line ++
          ", column " ++ Decimal.natText x.column) (some (x.line, x.column)), stack, [])
      | some m =>
        let stack := if c == '\x7b' then false :: stack
          else if c == '\x7d' then stack.tail else stack
        (.mark m, stack, s.drop m.length)

/-- All tokens; nothing follows a bad one. The number bounds the work. -/
def scanAll : Nat → List Bool → List Spot → List Token
  | 0, _, _ => []
  | fuel + 1, stack, s =>
    match skipGaps (fuel + 1) false s with
    | none =>
      match s with
      | [] => []
      | x :: _ => [⟨.bad "unterminated multiline comment" (restPlace s []), x.line, x.column, false⟩]
    | some (_, []) => []
    | some (afterLine, x :: rest) =>
      let (lexeme, stack, rest) := scanOne (fuel + 1) stack (x :: rest)
      ⟨lexeme, x.line, x.column, afterLine⟩ :: scanAll fuel stack rest

/-- The characters without a first line that names an interpreter. -/
def withoutDirective (s : List Spot) : List Spot :=
  if begins ['#', '!'] s then s.dropWhile fun x => !isLineEnd x.char else s

/-- The tokens of a script. -/
def Token.scan (source : String) : List Token :=
  let spots := locate 1 1 source.toList
  scanAll (spots.length + 1) [] (withoutDirective spots)

end Snippet.Script
