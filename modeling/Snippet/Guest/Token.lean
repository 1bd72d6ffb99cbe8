import Snippet.Guest.LeftOut
import Snippet.Text.Printable
import Snippet.Json.Read
import Snippet.Decimal.Reading
/-!
Cutting a guest program into tokens.

Indentation counts: a line that is indented deeper than the one before it opens a block, and one that is
indented less closes blocks. Inside brackets lines do not count. The tokens end at the end of the
program or at the first part that is no token.
-/

namespace Snippet.Guest

open Snippet.Text

/-- What is wrong with a program that cannot be read. -/
structure Complaint where
  /-- the kind of the exception -/
  kind : String
  message : String
  /-- the line, if there is one to name -/
  line : Option Nat
  deriving Repr, DecidableEq

/-- A complaint about the grammar. -/
def Complaint.grammar (message : String) (line : Nat) : Complaint := ⟨"SyntaxError", message, some line⟩

/-- A complaint about blocks. -/
def Complaint.layout (message : String) (line : Nat) : Complaint :=
  ⟨"IndentationError", message, some line⟩

/-- The kinds of tokens. -/
inductive Lexeme where
  | name (s : String)
  | int (n : Nat)
  | float (x : Float)
  | str (p : Points)
  | bytes (p : Points)
  /-- text with values in between, as it is written, and whether backslashes stand for themselves -/
  | format (raw : Bool) (s : List Char)
  | mark (s : String)
  | newline
  | indent
  | dedent
  | ended
  /-- no token -/
  | bad (c : Complaint)
  /-- part of the language, but left out -/
  | leftOut
  /-- the end of the program where a bracket is open, and that bracket -/
  | unclosed (bracket : Char) (line : Nat)
  deriving Repr

/-- A token and the line on which it begins. -/
structure Token where
  lexeme : Lexeme
  line : Nat
  /-- how many brackets are open before it -/
  depth : Nat
  deriving Repr

/-! ## Characters -/

/-- Other symbols and punctuation beyond ASCII. -/
def symbolRanges : List (Nat × Nat) :=
  [(0xA1, 0xA9), (0xAB, 0xAC), (0xAE, 0xB1), (0xB4, 0xB4), (0xB6, 0xB6), (0xB8, 0xB8),
    (0xBB, 0xBF), (0xD7, 0xD7), (0xF7, 0xF7), (0x2010, 0x2027), (0x2030, 0x203E), (0x2041, 0x2053),
    (0x2055, 0x205E), (0x20A0, 0x20CF), (0x2190, 0x2BFF), (0x3001, 0x3004), (0x3008, 0x3020), (0x3030, 0x3030), (0xFF01, 0xFF0F),
    (0xFF1A, 0xFF20), (0xFF3B, 0xFF3E), (0x1F000, 0x1FAFF)]

/-- Can a name begin with the character? -/
def isNameStart (c : Char) : Bool :=
  c.isAlpha || c == '_' ||
    (0x80 ≤ c.toNat && isPrintable c.toNat && !inRanges symbolRanges c.toNat)

/-- Can the character stand in a name? -/
def isNamePart (c : Char) : Bool := isNameStart c || c.isDigit

/-- A number as it is written for a code point. -/
def pointName (c : Char) : String :=
  let digits := (Nat.toDigits 16 c.toNat).map Char.toUpper
  "U+" ++ String.ofList (List.replicate (4 - digits.length) '0' ++ digits)

/-- What is said of a character with which no token begins. -/
def strayMessage (c : Char) : String :=
  if c.toNat < 0x80 then "invalid syntax"
  else if isPrintable c.toNat then
    "invalid character '" ++ String.singleton c ++ "' (" ++ pointName c ++ ")"
  else "invalid non-printable character " ++ pointName c

/-- The marks of three, two and one characters. -/
def marks : List String :=
  ["**=", "//=", ">>=", "<<=", "...", "**", "//", ">>", "<<", "<=", ">=", "==", "!=", "->", "+=",
    "-=", "*=", "/=", "%=", "&=", "|=", "^=", "@=", ":=", "+", "-", "*", "/", "%", "@", "&", "|",
    "^", "~", "<", ">", "(", ")", "[", "]", "\x7b", "\x7d", ",", ":", ".", ";", "="]

/-- The bracket that closes a bracket. -/
def closing : Char → Char
  | '(' => ')'
  | '[' => ']'
  | _ => '\x7d'

/-! ## Numbers -/

/-- The value of digits in a base. -/
def valueIn (base : Nat) (ds : List Char) : Nat :=
  ds.foldl (fun n d => n * base + (Json.hexValue? d).getD 0) 0

/-- Digits in which single underscores may separate two; without the underscores, and the rest. None if an
underscore does not separate two digits. -/
def digitsWith (p : Char → Bool) : Nat → List Char → Option (List Char × List Char)
  | 0, s => some ([], s)
  | n + 1, s =>
    let ds := s.takeWhile p
    match s.dropWhile p with
    | '_' :: rest =>
      match rest with
      | c :: _ =>
        if p c && !ds.isEmpty then
          (digitsWith p n rest).map fun (more, rest) => (ds ++ more, rest)
        else none
      | [] => none
    | rest => some (ds, rest)

/-- Words that may follow a number at once. -/
def wordsAfterNumber : List String := ["and", "else", "for", "if", "in", "is", "or", "not"]

/-- Does a name follow that cannot stand there? -/
def glued (s : List Char) : Bool :=
  match s with
  | c :: _ => isNameStart c && !wordsAfterNumber.any fun w => w.toList.isPrefixOf s
  | [] => false

/-- A whole number in a base other than ten, after its mark. -/
def basedNumber (base : Nat) (what : String) (line : Nat) (s : List Char) :
    Lexeme × List Char :=
  let p := fun c => match Json.hexValue? c with
    | some v => v < base
    | none => false
  let s := match s with
    | '_' :: rest => rest
    | s => s
  match digitsWith p (s.length + 1) s with
  | some (ds, rest) =>
    match rest with
    | c :: _ =>
      if c.isDigit then
        (.bad (.grammar ("invalid digit '" ++ String.singleton c ++ "' in " ++ what ++ " literal") line),
          rest)
      else if ds.isEmpty || glued rest then
        (.bad (.grammar ("invalid " ++ what ++ " literal") line), rest)
      else (.int (valueIn base ds), rest)
    | [] =>
      if ds.isEmpty then (.bad (.grammar ("invalid " ++ what ++ " literal") line), rest)
      else (.int (valueIn base ds), rest)
  | none => (.bad (.grammar ("invalid " ++ what ++ " literal") line), s)

/-- A number with a fraction or an exponent, given the digits before it. -/
def realNumber (line : Nat) (whole : List Char) (s : List Char) : Lexeme × List Char :=
  let isDigit := Char.isDigit
  let (fraction, s) := match s with
    | '.' :: rest => ((digitsWith isDigit (rest.length + 1) rest).getD ([], rest))
    | s => ([], s)
  let bad := Lexeme.bad (.grammar "invalid decimal literal" line)
  let exponent : Option (Int × List Char) := match s with
    | e :: rest =>
      if e == 'e' || e == 'E' then
        let (negative, ds) := match rest with
          | '-' :: ds => (true, ds)
          | '+' :: ds => (false, ds)
          | ds => (false, ds)
        match digitsWith isDigit (ds.length + 1) ds with
        | some ([], _) => none
        | some (ds, rest) =>
          let n : Int := Decimal.digitsValue ds
          some (if negative then -n else n, rest)
        | none => none
      else some (0, s)
    | [] => some (0, s)
  match exponent with
  | none => (bad, s)
  | some (e, rest) =>
    if glued rest then (bad, rest)
    else
      (.float (Decimal.nearest (Decimal.digitsValue (whole ++ fraction)) (e - fraction.length)), rest)

/-- A number in front. -/
def number (line : Nat) (s : List Char) : Lexeme × List Char :=
  match s with
  | '0' :: 'x' :: rest => basedNumber 16 "hexadecimal" line rest
  | '0' :: 'X' :: rest => basedNumber 16 "hexadecimal" line rest
  | '0' :: 'o' :: rest => basedNumber 8 "octal" line rest
  | '0' :: 'O' :: rest => basedNumber 8 "octal" line rest
  | '0' :: 'b' :: rest => basedNumber 2 "binary" line rest
  | '0' :: 'B' :: rest => basedNumber 2 "binary" line rest
  | s =>
    match digitsWith Char.isDigit (s.length + 1) s with
    | none => (.bad (.grammar "invalid decimal literal" line), s)
    | some (ds, rest) =>
      match rest with
      | '.' :: _ => realNumber line ds rest
      | 'e' :: 'l' :: _ => (.int (Decimal.digitsValue ds), rest)
      | 'e' :: _ => realNumber line ds rest
      | 'E' :: _ => realNumber line ds rest
      | rest =>
        if glued rest then (.bad (.grammar "invalid decimal literal" line), rest)
        else if ds.length > 1 && ds.head? == some '0' && ds.any (· != '0') then
          (.bad (.grammar ("leading zeros in decimal integer literals are not permitted; " ++
            "use an 0o prefix for octal integers") line), rest)
        else (.int (Decimal.digitsValue ds), rest)

/-! ## Text -/

/-- The one-letter escapes. -/
def letterEscape? : Char → Option Nat
  | 'n' => some 10
  | 't' => some 9
  | 'r' => some 13
  | '\\' => some 92
  | '\'' => some 39
  | '"' => some 34
  | 'a' => some 7
  | 'b' => some 8
  | 'f' => some 12
  | 'v' => some 11
  | _ => none

/-- What is said of an escape that is cut short. -/
def truncatedEscape (at_ end_ : Nat) (form : String) : String :=
  "(unicode error) 'unicodeescape' codec can't decode bytes in position " ++ toString at_ ++ "-" ++
    toString end_ ++ ": truncated " ++ form ++ " escape"

/-- The digits of an escape of a set length; otherwise how many there are. -/
def escapeDigits (count : Nat) (s : List Char) : Except Nat (Nat × List Char) :=
  let ds := (s.take count).takeWhile fun c => (Json.hexValue? c).isSome
  if ds.length = count then .ok (valueIn 16 ds, s.drop count) else .error ds.length

/-- The code points that a text spells, its escapes resolved; the place counts what has been read. Bytes have no
escapes of more than two digits. -/
def unescape (bytes : Bool) : Nat → Nat → List Char → Except String Points
  | 0, _, _ => .ok []
  | _ + 1, _, [] => .ok []
  | n + 1, at_, '\\' :: c :: rest =>
    let digits (count : Nat) (form : String) : Except String Points :=
      match escapeDigits count rest with
      | .ok (v, rest) => do
        if v > 0x10FFFF then
          throw ("(unicode error) 'unicodeescape' codec can't decode bytes in position " ++
            toString at_ ++ "-" ++ toString (at_ + 9) ++ ": illegal Unicode character")
        return v :: (← unescape bytes n (at_ + 2 + count) rest)
      | .error found =>
        .error (if bytes then "(value error) invalid \\x escape at position " ++ toString at_
          else truncatedEscape at_ (at_ + 1 + found) form)
    match letterEscape? c with
    | some v => do return v :: (← unescape bytes n (at_ + 2) rest)
    | none =>
      if c == '\n' then unescape bytes n (at_ + 2) rest
      else if c == 'x' then digits 2 "\\xXX"
      else if c == 'u' && !bytes then digits 4 "\\uXXXX"
      else if c == 'U' && !bytes then digits 8 "\\UXXXXXXXX"
      else if '0' ≤ c && c ≤ '7' then
        let ds := (c :: rest).take 3 |>.takeWhile fun d => '0' ≤ d && d ≤ '7'
        let v := if bytes then valueIn 8 ds % 256 else valueIn 8 ds
        do return v :: (← unescape bytes n (at_ + 1 + ds.length) ((c :: rest).drop ds.length))
      else do return 92 :: c.toNat :: (← unescape bytes n (at_ + 2) rest)
  | n + 1, at_, c :: rest => do return c.toNat :: (← unescape bytes n (at_ + 1) rest)

/-- Is a character given by its name? -/
def namesCharacter : List Char → Bool
  | '\\' :: 'N' :: _ => true
  | '\\' :: _ :: rest => namesCharacter rest
  | _ :: rest => namesCharacter rest
  | [] => false

/-- The characters up to the closing quotes and the rest after them; none if they are not closed. -/
def quoted (quote : Char) (triple : Bool) : List Char → Option (List Char × List Char)
  | [] => none
  | '\\' :: c :: rest => (quoted quote triple rest).map fun (s, rest) => ('\\' :: c :: s, rest)
  | c :: rest =>
    if c == quote then
      if !triple then some ([], rest)
      else match rest with
        | a :: b :: after =>
          if a == quote && b == quote then some ([], after)
          else (quoted quote triple (a :: b :: after)).map fun (s, rest) => (c :: s, rest)
        | _ => none
    else if c == '\n' && !triple then none
    else (quoted quote triple rest).map fun (s, rest) => (c :: s, rest)

/-- How many lines end in a text. -/
def lineCount (s : List Char) : Nat := s.count '\n'

/-- What stands before the quotes of a text. -/
structure Mode where
  raw : Bool
  bytes : Bool
  format : Bool
  deriving Repr, DecidableEq

/-- The mode of a text by the letters before it. -/
def Mode.ofLetters? (s : List Char) : Option Mode :=
  match s.map Char.toLower with
  | [] => some ⟨false, false, false⟩
  | ['r'] => some ⟨true, false, false⟩
  | ['u'] => some ⟨false, false, false⟩
  | ['b'] => some ⟨false, true, false⟩
  | ['f'] => some ⟨false, false, true⟩
  | ['b', 'r'] => some ⟨true, true, false⟩
  | ['r', 'b'] => some ⟨true, true, false⟩
  | ['f', 'r'] => some ⟨true, false, true⟩
  | ['r', 'f'] => some ⟨true, false, true⟩
  | _ => none

/-- A text after the letters before it, with the line on which it ends. -/
def textToken (m : Mode) (line : Nat) (s : List Char) : Lexeme × List Char × Nat :=
  match s with
  | [] => (.bad (.grammar "invalid syntax" line), [], line)
  | quote :: rest =>
    let triple := match rest with
      | a :: b :: _ => a == quote && b == quote
      | _ => false
    let body := if triple then rest.drop 2 else rest
    match quoted quote triple body with
    | none =>
      let message := if triple then
          "unterminated triple-quoted string literal (detected at line " ++
            toString (line + lineCount (trimNewline body)) ++ ")"
        else "unterminated string literal (detected at line " ++ toString line ++ ")"
      (.bad (.grammar message line), [], line)
    | some (raw, after) =>
      let ended := line + lineCount raw
      if !m.raw && !m.bytes && namesCharacter raw then (.leftOut, after, ended)
      else if m.format then (.format m.raw raw, after, ended)
      else
        let points := if m.raw then .ok (raw.map Char.toNat) else unescape m.bytes (raw.length + 1) 0 raw
        match points with
        | .error message => (.bad (.grammar message line), after, ended)
        | .ok p =>
          if m.bytes then
            if raw.any fun c => 0x80 ≤ c.toNat then
              (.bad (.grammar "bytes can only contain ASCII literal characters" line), after, ended)
            else (.bytes p, after, ended)
          else (.str p, after, ended)
where
  trimNewline (s : List Char) : List Char := if s.getLast? = some '\n' then s.dropLast else s

/-! ## Programs -/

/-- Where the cutting stands. -/
structure Cutter where
  rest : List Char
  line : Nat
  /-- open brackets with their lines, the innermost first -/
  brackets : List (Char × Nat)
  /-- the indentations of the open blocks, the innermost first: where tabs go on to the next multiple of eight, and
  where they count as blanks -/
  indents : List (Nat × Nat)
  /-- a new line begins here -/
  fresh : Bool
  /-- the tokens so far, in reverse -/
  tokens : List Token

namespace Cutter

/-- One more token. -/
def emit (c : Cutter) (l : Lexeme) : Cutter :=
  { c with tokens := ⟨l, c.line, c.brackets.length⟩ :: c.tokens }

/-- Everything ends here with a part that is no token. -/
def fail (c : Cutter) (k : Complaint) : List Token := (c.emit (.bad k)).tokens.reverse

/-- Everything ends here with a part that is left out. -/
def leave (c : Cutter) : List Token := (c.emit .leftOut).tokens.reverse

/-- How many brackets, and how many blocks, may be open. -/
def openLimit : Nat × Nat := (90, 19)

/-- Are more brackets or blocks open than may be? -/
def isCrowded (c : Cutter) : Bool := openLimit.1 < c.brackets.length || openLimit.2 < c.indents.length

/-- The widths of an indentation, and the rest of its line. -/
def indentation : Nat × Nat → List Char → (Nat × Nat) × List Char
  | (n, k), ' ' :: rest => indentation (n + 1, k + 1) rest
  | (n, k), '\t' :: rest => indentation ((n / 8 + 1) * 8, k + 1) rest
  | _, '\x0c' :: rest => indentation (0, 0) rest
  | n, rest => (n, rest)

/-- Closes blocks down to an indentation; none if no block has it. -/
def closeTo (c : Cutter) (width : Nat) : Nat → Option Cutter
  | 0 => none
  | n + 1 =>
    match c.indents with
    | (top, _) :: below =>
      if top = width then some c
      else if width < top then ({ c.emit .dedent with indents := below }).closeTo width n
      else none
    | [] => none

/-- The tokens at the end of the program. -/
def finish (c : Cutter) : List Token :=
  match c.brackets with
  | (bracket, line) :: _ => (c.emit (.unclosed bracket line)).tokens.reverse
  | [] =>
    let c := match c.tokens with
      | ⟨.newline, _, _⟩ :: _ => c
      | ⟨.dedent, _, _⟩ :: _ => c
      | [] => c
      | _ => c.emit .newline
    let last := match c.tokens with
      | t :: _ => t.line
      | [] => 1
    let c := { c with line := if c.fresh then last else c.line }
    let c := (c.indents.filter (·.1 != 0)).foldl (fun c _ => c.emit .dedent) c
    (c.emit .ended).tokens.reverse

/-- A bracket opens or closes. -/
def bracket (c : Cutter) (m : Char) : Except Complaint Cutter :=
  if m == '(' || m == '[' || m == '\x7b' then
    .ok { c.emit (.mark (String.singleton m)) with brackets := (m, c.line) :: c.brackets }
  else
    match c.brackets with
    | [] => .error (.grammar ("unmatched '" ++ String.singleton m ++ "'") c.line)
    | (opened, line) :: outer =>
      if closing opened == m then
        .ok ({ c with brackets := outer }.emit (.mark (String.singleton m)))
      else
        let where_ := if line = c.line then "" else " on line " ++ toString line
        .error (.grammar ("closing parenthesis '" ++ String.singleton m ++
          "' does not match opening parenthesis '" ++ String.singleton opened ++ "'" ++ where_) c.line)

/-- A text comes next. -/
def text (c : Cutter) (m : Mode) (s : List Char) : Except Complaint Cutter :=
  match textToken m c.line s with
  | (.bad k, _, _) => .error k
  | (l, rest, line) => .ok { c.emit l with rest, line }

/-- A name that means something else than itself, or that could. -/
def isOddName (word : String) : Bool :=
  word == "__future__" || word == "__debug__" || isPrivateName word || word.toList.any fun c => 128 ≤ c.toNat

/-- Does an imaginary number go on here, or a number with more digits than are read? -/
def isOddNumber (l : Lexeme) (taken : Nat) (rest : List Char) : Bool :=
  let tooLong := match l with
    | .int _ => 4300 < taken
    | _ => false
  tooLong || rest.head? == some 'j' || rest.head? == some 'J'

/-- Cuts the rest; the number bounds the work. -/
def run : Nat → Cutter → List Token
  | 0, c => c.leave
  | n + 1, c =>
    if c.isCrowded then c.leave
    else if c.fresh then
      let ((width, blanks), rest) := indentation (0, 0) c.rest
      match rest with
      | [] => ({ c with rest := [] } : Cutter).finish
      | '\n' :: rest => run n { c with rest, line := c.line + 1 }
      | '#' :: rest => run n { c with rest := rest.dropWhile (· != '\n') }
      | '\\' :: _ => c.leave
      | rest =>
        let (top, topBlanks) := c.indents.head?.getD (0, 0)
        let c := { c with rest, fresh := false }
        let mixed : Complaint := ⟨"TabError", "inconsistent use of tabs and spaces in indentation", some c.line⟩
        if width = top then if blanks = topBlanks then run n c else c.fail mixed
        else if top < width then
          if topBlanks < blanks then run n { c.emit .indent with indents := (width, blanks) :: c.indents }
          else c.fail mixed
        else
          match c.closeTo width (c.indents.length + 1) with
          | some c => if (c.indents.head?.map (·.2)).getD 0 = blanks then run n c else c.fail mixed
          | none => c.fail (.layout "unindent does not match any outer indentation level" c.line)
    else
      match c.rest with
      | [] => c.finish
      | '\n' :: rest =>
        if c.brackets.isEmpty then
          run n { c.emit .newline with rest, line := c.line + 1, fresh := true }
        else run n { c with rest, line := c.line + 1 }
      | '\\' :: '\n' :: rest =>
        if rest.isEmpty then c.fail (.grammar "unexpected EOF while parsing" c.line)
        else run n { c with rest, line := c.line + 1 }
      | '\\' :: rest =>
        c.fail (.grammar (if rest.isEmpty then "unexpected EOF while parsing"
          else "unexpected character after line continuation character") c.line)
      | '#' :: rest => run n { c with rest := rest.dropWhile (· != '\n') }
      | ch :: rest =>
        if ch == ' ' || ch == '\t' || ch == '\x0c' then run n { c with rest }
        else if ch.isDigit || (ch == '.' && (rest.head?.map Char.isDigit).getD false) then
          match number c.line (ch :: rest) with
          | (l, after) =>
            if isOddNumber l (rest.length - after.length) after then c.leave
            else
              match l with
              | .bad k => c.fail k
              | l => run n { c.emit l with rest := after }
        else if ch == '"' || ch == '\'' then
          match c.text ⟨false, false, false⟩ (ch :: rest) with
          | .ok c => run n c
          | .error k => c.fail k
        else if isNameStart ch then
          let word := (ch :: rest).takeWhile isNamePart
          let after := (ch :: rest).dropWhile isNamePart
          let opensText := match after with
            | q :: _ => q == '"' || q == '\''
            | [] => false
          match Mode.ofLetters? word, opensText with
          | some m, true =>
            match c.text m after with
            | .ok c => run n c
            | .error k => c.fail k
          | _, _ =>
            let word := String.ofList word
            let l := if isOddName word then .leftOut else .name word
            run n { c.emit l with rest := after }
        else
          match marks.find? fun m => m.toList.isPrefixOf (ch :: rest) with
          | none => c.fail (.grammar (strayMessage ch) c.line)
          | some m =>
            let rest := (ch :: rest).drop m.length
            if "()[]\x7b\x7d".toList.contains ch then
              match c.bracket ch with
              | .ok c => run n { c with rest }
              | .error k => c.fail k
            else run n { c.emit (.mark m) with rest }

end Cutter

/-- The text with every kind of line end made a newline. -/
def plainLines : List Char → List Char
  | '\r' :: '\n' :: rest => '\n' :: plainLines rest
  | '\r' :: rest => '\n' :: plainLines rest
  | c :: rest => c :: plainLines rest
  | [] => []

/-- The tokens of a program. -/
def Token.scan (source : String) : List Token :=
  let s := plainLines source.toList
  Cutter.run (2 * s.length + 4) ⟨s, 1, [], [(0, 0)], true, []⟩

/-- The tokens of an expression that stands inside a text. -/
def Token.scanInside (s : List Char) (line : Nat) : List Token :=
  Cutter.run (2 * s.length + 6) ⟨'(' :: s ++ [')'], line, [], [(0, 0)], false, []⟩

end Snippet.Guest
