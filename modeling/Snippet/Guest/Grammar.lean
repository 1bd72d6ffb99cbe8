import Snippet.Guest.Ast
import Snippet.Guest.Token
/-!
From tokens to guest programs.

Each rule of the grammar is a parser over the tokens that are left. Rules that lead back to themselves do
so through a record `Rules`, which `rules` ties together: every trip through the record uses up one
unit of a budget that the number of tokens bounds. What the grammar alone does not forbid, such as
leaving a loop outside one, is complained about only if the rest of the program can be read. A program with a part
that is left out of the language goes beyond the model: it may be one that can be read.
-/

namespace Snippet.Guest

open Snippet.Text

/-- Where a parser stands. -/
structure Reading where
  tokens : List Token
  /-- the first complaint that is kept for the end -/
  late : Option Complaint
  inFunction : Bool
  inLoop : Bool

/-- Why a program cannot be read. -/
inductive Refusal where
  /-- it is none -/
  | wrong (c : Complaint)
  /-- it may be one that goes beyond the model -/
  | beyond
  deriving Repr, DecidableEq

/-- A parser takes tokens from the front. -/
abbrev Parser := StateT Reading (Except Refusal)

/-- Words that begin what is left out. -/
def leftOutWords : List String := ["async", "await", "case", "match", "nonlocal", "with", "yield"]

/-- Is the token left out, or does it begin what is? -/
def Token.isLeftOut (t : Token) : Bool :=
  match t.lexeme with
  | .leftOut => true
  | .name w => leftOutWords.contains w
  | .mark m => ["@", "@=", ":=", "..."].contains m
  | _ => false

namespace Parser

/-- Complains. -/
def fail {α : Type} (c : Complaint) : Parser α := fun _ => .error (.wrong c)

/-- Goes beyond the model. -/
def leave {α : Type} : Parser α := fun _ => .error .beyond

/-- What is said of a token that stands where none of its kind can. -/
def unexpected (t : Token) (message : String) : Complaint :=
  match t.lexeme with
  | .bad c => c
  | .unclosed bracket line => .grammar ("'" ++ String.singleton bracket ++ "' was never closed") line
  | .indent => .layout "unexpected indent" t.line
  | _ => .grammar message t.line

/-- What is said in general. -/
def general : String := "invalid syntax"

/-- The next token. -/
def peek : Parser Token := fun r =>
  match r.tokens with
  | t :: _ => .ok (t, r)
  | [] => .ok (⟨.ended, 1, 0⟩, r)

/-- The token after the next one. -/
def peekSecond : Parser Token := fun r =>
  match r.tokens with
  | _ :: t :: _ => .ok (t, r)
  | _ => .ok (⟨.ended, 1, 0⟩, r)

/-- Passes over the next token. -/
def skip : Parser Unit := fun r => .ok ((), { r with tokens := r.tokens.drop 1 })

/-- Complains about the next token. -/
def reject {α : Type} (message : String) : Parser α := do
  fail (unexpected (← peek) message)

/-- Keeps a complaint for the end, unless one is kept already. -/
def keep (c : Complaint) : Parser Unit := fun r =>
  .ok ((), { r with late := r.late.or (some c) })

/-- How many tokens are left. -/
def count : Parser Nat := fun r => .ok (r.tokens.length + 1, r)

/-- Is the next token the mark? -/
def sees (mark : String) : Parser Bool := do
  match (← peek).lexeme with
  | .mark m => return m == mark
  | _ => return false

/-- Is the next token the word? -/
def seesWord (word : String) : Parser Bool := do
  match (← peek).lexeme with
  | .name w => return w == word
  | _ => return false

/-- Takes the mark if it comes next, and says whether it did. -/
def takes (mark : String) : Parser Bool := do
  if ← sees mark then
    skip
    return true
  else return false

/-- Takes the word if it comes next, and says whether it did. -/
def takesWord (word : String) : Parser Bool := do
  if ← seesWord word then
    skip
    return true
  else return false

/-- Takes the mark, which must come next. -/
def expect (mark : String) (message : String) : Parser Unit := do
  if !(← takes mark) then reject message

/-- Takes the word, which must come next. -/
def expectWord (word : String) (message : String) : Parser Unit := do
  if !(← takesWord word) then reject message

/-- Does a line end here? -/
def seesNewline : Parser Bool := do
  match (← peek).lexeme with
  | .newline => return true
  | _ => return false

/-- A parser inside other surroundings. -/
def within {α : Type} (inFunction inLoop : Bool) (p : Parser α) : Parser α := fun r =>
  match p { r with inFunction, inLoop } with
  | .ok (a, after) => .ok (a, { after with inFunction := r.inFunction, inLoop := r.inLoop })
  | .error c => .error c

end Parser

open Snippet.Guest.Parser

/-- Words that are no names. -/
def keywords : List String :=
  ["False", "None", "True", "and", "as", "assert", "async", "await", "break", "class", "continue",
    "def", "del", "elif", "else", "except", "finally", "for", "from", "global", "if", "import", "in",
    "is", "lambda", "nonlocal", "not", "or", "pass", "raise", "return", "try", "while", "with",
    "yield"]

/-- How many operators, and how many tokens of a line, may follow one another. -/
def rowLimit : Nat := 1000

/-- Can an expression begin with the token, other than as the operand of an operator? -/
def startsOperand (t : Token) : Bool :=
  match t.lexeme with
  | .name w => !keywords.contains w || ["None", "True", "False", "lambda", "not"].contains w
  | .int _ => true
  | .float _ => true
  | .str _ => true
  | .bytes _ => true
  | .format _ _ => true
  | .mark m => m == "~" || m == "\x7b" || m == "..."
  | _ => false

/-- Is the token a text? -/
def isText (t : Token) : Bool :=
  match t.lexeme with
  | .str _ => true
  | .bytes _ => true
  | .format _ _ => true
  | _ => false

/-- The rules that lead back to themselves. -/
structure Rules where
  expression : Parser Expr
  unary : Parser Expr
  inversion : Parser Expr
  statement : Parser (List Stmt)

namespace Rules

/-! ## Targets -/

/-- What an expression is called where it cannot be assigned to. -/
def kindName : Expr → String
  | .none => "None"
  | .bool true => "True"
  | .bool false => "False"
  | .int _ => "literal"
  | .float _ => "literal"
  | .str _ => "literal"
  | .bytes _ => "literal"
  | .format _ => "f-string expression"
  | .call .. => "function call"
  | .compare .. => "comparison"
  | .cond .. => "conditional expression"
  | .lambda .. => "lambda"
  | .dict _ => "dict literal"
  | .listOf .. => "list comprehension"
  | .tuple _ => "tuple"
  | .list _ => "list"
  | _ => "expression"

/-- Is the expression at the level of arithmetic, where a comparison may have been meant? -/
def mayCompare : Expr → Bool
  | .none => false
  | .bool _ => false
  | .tuple _ => false
  | .list _ => false
  | .unary .not _ => false
  | .and _ _ => false
  | .or _ _ => false
  | .compare _ _ => false
  | .cond _ _ _ => false
  | .lambda _ _ => false
  | _ => true

/-- The part of an expression that keeps it from being a target. -/
def badTarget? : Nat → Expr → Option Expr
  | 0, _ => none
  | n + 1, e =>
    match e with
    | .name _ => none
    | .attr _ _ => none
    | .index _ _ => none
    | .slice .. => none
    | .star e => badTarget? n e
    | .tuple items => items.findSome? (badTarget? n)
    | .list items => items.findSome? (badTarget? n)
    | e => some e

/-- How deep targets are looked into. -/
def targetDepth : Nat := 100

/-- Checks a target of an assignment. -/
def checkTarget (line : Nat) (first : Bool) (e : Expr) : Parser Unit := do
  match badTarget? targetDepth e with
  | none =>
    match e with
    | .star _ => keep (.grammar "starred assignment target must be in a list or tuple" line)
    | _ => return
  | some bad =>
    let whole := match e with
      | .tuple _ => false
      | .list _ => false
      | _ => true
    fail (.grammar ("cannot assign to " ++ kindName bad ++
      (if first && whole && mayCompare bad then " here. Maybe you meant '==' instead of '='?" else ""))
      line)

/-! ## Texts with values in between -/

/-- Cuts a text at the end of a value inside it: the value, and what follows from the mark that ends it.
The quotes and brackets inside the value are counted. -/
def valueEnd : Nat → List Char → List Char → List Char → Option (List Char × List Char)
  | 0, _, _, _ => none
  | _ + 1, _, _, [] => none
  | n + 1, acc, stack, c :: rest =>
    match stack with
    | quote :: below =>
      if quote == '"' || quote == '\'' then
        valueEnd n (c :: acc) (if c == quote then below else stack) rest
      else if c == quote then valueEnd n (c :: acc) below rest
      else valueEnd n (c :: acc) (opened c ++ stack) rest
    | [] =>
      if c == '\x7d' || c == ':' || (c == '!' && rest.head? != some '=') then
        some (acc.reverse, c :: rest)
      else valueEnd n (c :: acc) (opened c) rest
where
  opened (c : Char) : List Char :=
    if c == '"' || c == '\'' then [c]
    else if c == '(' || c == '[' || c == '\x7b' then [closing c]
    else []

/-- A literal part of a text: doubled braces stand for one. What follows begins with a brace or is
nothing. -/
def literalPart : List Char → List Char × List Char
  | '\x7b' :: '\x7b' :: rest => let (s, rest) := literalPart rest; ('\x7b' :: s, rest)
  | '\x7d' :: '\x7d' :: rest => let (s, rest) := literalPart rest; ('\x7d' :: s, rest)
  | '\x7b' :: rest => ([], '\x7b' :: rest)
  | '\x7d' :: rest => ([], '\x7d' :: rest)
  | c :: rest => let (s, rest) := literalPart rest; (c :: s, rest)
  | [] => ([], [])

/-- The parts of a text with values in between. -/
def formatParts (R : Rules) (raw : Bool) (line : Nat) : Nat → List Char → Parser (List Part)
  | 0, _ => return []
  | n + 1, s => do
    let bad {α : Type} (message : String) : Parser α := fail (.grammar ("f-string: " ++ message) line)
    let (literal, rest) := literalPart s
    let points ← if raw then pure (literal.map Char.toNat)
      else match unescape false (literal.length + 1) 0 literal with
        | .ok p => pure p
        | .error message => fail (.grammar message line)
    let before := if points.isEmpty then [] else [Part.text points]
    match rest with
    | [] => return before
    | '\x7d' :: _ => bad "single '\x7d' is not allowed"
    | _ :: rest =>
      match valueEnd (rest.length + 1) [] [] rest with
      | none => bad "expecting '\x7d'"
      | some (inside, after) =>
        if inside.all fun c => c == ' ' || c == '\n' || c == '\t' then
          bad "empty expression not allowed"
        else if inside.any fun c => c == '\\' || c == '#' then leave
        else
          let shown := match inside.reverse.dropWhile (· == ' ') with
            | '=' :: _ => true
            | _ => false
          let source := if shown then (inside.reverse.dropWhile (· == ' ')).drop 1 |>.reverse else inside
          let tokens := Token.scanInside source line
          if tokens.any Token.isLeftOut then leave
          let e ← fun r =>
            match R.expression { r with tokens } with
            | .ok (e, after) =>
              match after.tokens with
              | [] => .ok (e, r)
              | t :: _ => if isEnd t then .ok (e, r) else .error .beyond
            | .error (.wrong c) => .error (.wrong { c with message := "f-string: " ++ c.message })
            | .error .beyond => .error .beyond
          let (conversion, after) ← match after with
            | '!' :: c :: rest =>
              if c == 's' || c == 'r' || c == 'a' then
                pure (some c, rest)
              else bad "invalid conversion character: expected 's', 'r', or 'a'"
            | after => pure (none, after)
          let label := if shown then [Part.text (inside.map Char.toNat)] else []
          match after with
          | ':' :: rest =>
            let spec := rest.takeWhile (· != '\x7d')
            if spec.contains '\x7b' then leave
            match rest.dropWhile (· != '\x7d') with
            | _ :: rest =>
              return before ++ label ++ [.value e conversion (spec.map Char.toNat)] ++
                (← formatParts R raw line n rest)
            | [] => bad "expecting '\x7d'"
          | '\x7d' :: rest =>
            let conversion := if shown then conversion.or (some 'r') else conversion
            return before ++ label ++ [.value e conversion []] ++ (← formatParts R raw line n rest)
          | _ => bad "expecting '\x7d'"
where
  isEnd (t : Token) : Bool :=
    match t.lexeme with
    | .newline => true
    | .ended => true
    | _ => false

/-- Neighbouring texts made one. -/
def texts (R : Rules) : Nat → List Part → Bool → Parser (List Part × Bool)
  | 0, acc, formatted => return (acc, formatted)
  | n + 1, acc, formatted => do
    let t ← peek
    match t.lexeme with
    | .str p =>
      skip
      texts R n (acc ++ [.text p]) formatted
    | .format raw s =>
      skip
      texts R n (acc ++ (← formatParts R raw t.line (s.length + 1) s)) true
    | _ => return (acc, formatted)

/-! ## Lists of expressions -/

/-- What a loop after an expression makes of it outside of a list is left out. -/
def noLoop : Parser Unit := do
  if ← seesWord "for" then leave

/-- Parts of a sequence among other indices are left out. -/
def noPart (close : String) : Parser Unit := do
  if close == "]" && (← sees ":") then leave

/-- A mark that separates or ends expressions in brackets must come next. -/
def separator (before : Expr) (close : String) : Parser Bool := do
  noLoop
  noPart close
  if ← takes "," then return true
  if ← sees close then return false
  let t ← peek
  let plainName := match before with
    | .name _ => true
    | _ => false
  if startsOperand t && t.depth != 0 && !(plainName && isText t) then
    reject "invalid syntax. Perhaps you forgot a comma?"
  else reject general

/-- No expression with a star can stand here by itself. -/
def unstarred (e : Expr) : Parser Expr :=
  match e with
  | .star _ => leave
  | e => return e

/-- An expression, perhaps with a star. -/
def starred (R : Rules) : Parser Expr := do
  if ← takes "*" then
    let e ← R.unary
    let goesOn := match (← peek).lexeme with
      | .mark m => !([",", ")", "]", "\x7d", "=", ";", ":"].contains m)
      | .name w => w != "in" && w != "for"
      | _ => false
    if goesOn then leave else return .star e
  else R.expression

/-- Expressions up to a closing bracket; the flag says whether a comma came. -/
def items (R : Rules) (close : String) : Nat → Parser (List Expr × Bool)
  | 0 => return ([], false)
  | n + 1 => do
    if ← sees close then return ([], false)
    noPart close
    let e ← R.starred
    if ← separator e close then
      let (rest, _) ← R.items close n
      return (e :: rest, true)
    else return ([e], false)

/-- Does an expression follow? -/
def seesExpression : Parser Bool := do
  let t ← peek
  match t.lexeme with
  | .mark m => return ["(", "[", "\x7b", "-", "+", "~", "*", "..."].contains m
  | _ => return startsOperand t

/-- Expressions with commas between them; more than one, or a comma at the end, make a tuple. -/
def expressionsFrom (R : Rules) : Nat → List Expr → Parser Expr
  | 0, acc => return .tuple acc
  | n + 1, acc => do
    if ← takes "," then
      if ← seesExpression then R.expressionsFrom n (acc ++ [← R.starred])
      else return .tuple acc
    else
      match acc with
      | [e] => return e
      | acc => return .tuple acc

/-- One expression or more without brackets around them. -/
def expressions (R : Rules) : Parser Expr := do
  let first ← R.starred
  let n ← count
  let commaFollows ← sees ","
  if commaFollows then
    skip
    if ← seesExpression then R.expressionsFrom n [first, ← R.starred]
    else return .tuple [first]
  else return first

/-! ## Conditions -/

/-- Operands joined by a word. -/
def joined (word : String) (make : Expr → Expr → Expr) (operand : Parser Expr) :
    Nat → Expr → Parser Expr
  | 0, e => return e
  | n + 1, e => do
    if ← takesWord word then joined word make operand n (make e (← operand)) else return e

/-- Conditions joined by words. -/
def disjunction (R : Rules) : Parser Expr := do
  let n ← count
  let conjunction : Parser Expr := do
    let first ← R.inversion
    joined "and" .and R.inversion n first
  let first ← conjunction
  joined "or" .or conjunction n first

/-! ## Loops of lists -/

/-- More targets of a loop. -/
def targetsFrom (R : Rules) : Nat → List Expr → Parser Expr
  | 0, acc => return .tuple acc
  | n + 1, acc => do
    if ← takes "," then
      if ← seesWord "in" then return .tuple acc
      else if ← sees "*" then leave
      else R.targetsFrom n (acc ++ [← R.unary])
    else return .tuple acc

/-- The targets of a loop. -/
def targets (R : Rules) (n : Nat) : Parser Expr := do
  if ← sees "*" then leave
  let first ← R.unary
  if ← sees "," then R.targetsFrom n [first] else return first

/-- The conditions after a loop. -/
def conditions (R : Rules) : Nat → Parser (List Expr)
  | 0 => return []
  | n + 1 => do
    if ← takesWord "if" then
      let c ← R.disjunction
      return c :: (← R.conditions n)
    else return []

/-- The loops of a list. -/
def loops (R : Rules) : Nat → Parser (List Loop)
  | 0 => return []
  | n + 1 => do
    if ← takesWord "for" then
      let t ← peek
      let target ← R.targets n
      checkTarget t.line false target
      expectWord "in" general
      let source ← R.disjunction
      let conditions ← R.conditions n
      return .mk target source conditions :: (← R.loops n)
    else return []

/-! ## Calls -/

/-- Arguments up to the closing bracket. -/
def arguments (R : Rules) : Nat → Parser (List Expr × List (String × Expr))
  | 0 => return ([], [])
  | n + 1 => do
    if ← sees ")" then return ([], [])
    let t ← peek
    let second ← peekSecond
    let isNamed := match t.lexeme, second.lexeme with
      | .name _, .mark "=" => true
      | _, _ => false
    if ← takes "**" then
      let e ← R.expression
      let more ← separator e ")"
      let (args, named) ← if more then R.arguments n else pure ([], [])
      if args.isEmpty then return ([], ("**", e) :: named) else leave
    else if isNamed then
      let x := match t.lexeme with
        | .name x => x
        | _ => ""
      if ["None", "True", "False"].contains x then fail (.grammar ("cannot assign to " ++ x) t.line)
      if keywords.contains x then reject general
      skip
      skip
      let e ← R.expression
      let more ← separator e ")"
      if more then
        let next ← peek
        let after ← peekSecond
        let (args, named) ← R.arguments n
        let stillNamed := match next.lexeme, after.lexeme with
          | .name _, .mark "=" => true
          | .mark "**", _ => true
          | .mark "*", _ => true
          | .mark ")", _ => true
          | _, _ => false
        if !stillNamed then
          fail (.grammar "positional argument follows keyword argument" next.line)
        if named.any fun a => a.1 == x then leave
        return (args, (x, e) :: named)
      else return ([], [(x, e)])
    else
      let e ← R.starred
      if ← sees "=" then
        fail (.grammar "expression cannot contain assignment, perhaps you meant \"==\"?" t.line)
      let more ← separator e ")"
      let (args, named) ← if more then R.arguments n else pure ([], [])
      return (e :: args, named)

/-! ## Atoms -/

/-- The pairs of a dictionary up to the closing brace. -/
def pairs (R : Rules) : Nat → Parser (List (Expr × Expr))
  | 0 => return []
  | n + 1 => do
    if ← sees "\x7d" then return []
    if (← sees "*") || (← sees "**") then leave
    let k ← R.expression
    noLoop
    if (← sees ",") || (← sees "\x7d") then leave
    if !(← takes ":") then
      let t ← peek
      if startsOperand t then reject "invalid syntax. Perhaps you forgot a comma?"
      else reject "':' expected after dictionary key"
    if ← sees "\x7d" then reject "expression expected after dictionary key and ':'"
    let v ← R.expression
    if ← separator v "\x7d" then return (k, v) :: (← R.pairs n) else return [(k, v)]

/-- Do bytes follow? -/
def seesBytes : Parser Bool := do
  match (← peek).lexeme with
  | .bytes _ => return true
  | _ => return false

/-- Neighbouring bytes made one. -/
def byteTexts : Nat → Parser Points
  | 0 => return []
  | n + 1 => do
    match (← peek).lexeme with
    | .bytes p =>
      skip
      return p ++ (← byteTexts n)
    | .str _ => leave
    | .format _ _ => leave
    | _ => return []

/-- A text, or several that stand next to each other. -/
def textAtom (R : Rules) (n : Nat) : Parser Expr := do
  let (parts, formatted) ← R.texts n [] false
  if ← seesBytes then leave
  if formatted then return .format parts
  else
    return .str (parts.flatMap fun
      | .text p => p
      | .value .. => [])

/-- An expression that is not made of others by an operator. -/
def atom (R : Rules) : Parser Expr := do
  let t ← peek
  let n ← count
  match t.lexeme with
  | .int v =>
    skip
    return .int v
  | .float x =>
    skip
    return .float x
  | .bytes _ => return .bytes (← byteTexts n)
  | .str _ => R.textAtom n
  | .format _ _ => R.textAtom n
  | .name "None" =>
    skip
    return .none
  | .name "True" =>
    skip
    return .bool true
  | .name "False" =>
    skip
    return .bool false
  | .name w =>
    if keywords.contains w then reject general
    else
      skip
      return .name w
  | .mark "(" =>
    skip
    let (es, comma) ← R.items ")" n
    match es, comma with
    | [e], false =>
      expect ")" general
      unstarred e
    | es, _ =>
      expect ")" general
      return .tuple es
  | .mark "[" =>
    skip
    if ← takes "]" then return .list []
    let first ← R.starred
    if ← seesWord "for" then
      let first ← unstarred first
      let loops ← R.loops n
      expect "]" general
      return .listOf first loops
    if ← separator first "]" then
      let (es, _) ← R.items "]" n
      expect "]" general
      return .list (first :: es)
    else
      expect "]" general
      return .list [first]
  | .mark "\x7b" =>
    skip
    let ps ← R.pairs n
    expect "\x7d" general
    return .dict ps
  | _ => reject general

/-- An index, or a part of a sequence, up to the closing bracket. -/
def subscript (R : Rules) (e : Expr) : Parser Expr := do
  let bound : Parser (Option Expr) := do
    if ← sees "*" then leave
    if (← sees ":") || (← sees "]") then return none else return some (← R.expression)
  let first ← bound
  if ← takes ":" then
    let second ← bound
    let third ← if ← takes ":" then bound else pure none
    if ← sees "," then leave
    expect "]" general
    return .slice e first second third
  else
    match first with
    | none => reject general
    | some i =>
      if ← separator i "]" then
        let (rest, _) ← R.items "]" (← count)
        expect "]" general
        return .index e (.tuple (i :: rest))
      else
        expect "]" general
        return .index e i

/-- What follows an atom: attributes, calls and indices. -/
def trailers (R : Rules) : Nat → Expr → Parser Expr
  | 0, e => return e
  | n + 1, e => do
    if ← takes "." then
      let t ← peek
      match t.lexeme with
      | .name x =>
        if keywords.contains x then reject general
        else
          skip
          R.trailers n (.attr e x)
      | _ => reject general
    else if ← takes "(" then
      let (args, named) ← R.arguments n
      expect ")" general
      R.trailers n (.call e args named)
    else if ← takes "[" then R.trailers n (← R.subscript e)
    else return e

/-! ## Operators -/

/-- An atom with what follows it, and a power. -/
def power (R : Rules) : Parser Expr := do
  let base ← R.atom
  let e ← R.trailers (← count) base
  if ← takes "**" then return .binary .pow e (← R.unary) else return e

/-- An operand of arithmetic. -/
def unaryRule (R : Rules) : Parser Expr := do
  if ← takes "-" then return .unary .minus (← R.unary)
  if ← takes "+" then return .unary .plus (← R.unary)
  if ← takes "~" then return .unary .invert (← R.unary)
  R.power

/-- The operators between two operands by level, the loosest first. -/
def levels : List (List (String × BinOp)) :=
  [[("|", .bitOr)], [("^", .bitXor)], [("&", .bitAnd)], [("<<", .shiftLeft), (">>", .shiftRight)],
    [("+", .add), ("-", .sub)], [("*", .mul), ("/", .div), ("//", .floorDiv), ("%", .mod)]]

/-- More operands at a level. -/
def chain (ops : List (String × BinOp)) (operand : Parser Expr) : Nat → Expr → Parser Expr
  | 0, e => return e
  | n + 1, e => do
    let t ← peek
    let found : Option (String × BinOp) := match t.lexeme with
      | .mark m => ops.find? fun o => o.1 == m
      | _ => none
    match found with
    | some (_, op) =>
      skip
      chain ops operand n (.binary op e (← operand))
    | none => return e

/-- Arithmetic from a level on. -/
def arithmetic (R : Rules) : List (List (String × BinOp)) → Parser Expr
  | [] => R.unary
  | ops :: tighter => do
    let first ← R.arithmetic tighter
    chain ops (R.arithmetic tighter) (← count) first

/-- The comparison that comes next, taken. -/
def comparison? : Parser (Option CompareOp) := do
  let t ← peek
  let second ← peekSecond
  let mark? : String → Option CompareOp
    | "<" => some .lt
    | "<=" => some .le
    | ">" => some .gt
    | ">=" => some .ge
    | "==" => some .eq
    | "!=" => some .ne
    | _ => none
  match t.lexeme, second.lexeme with
  | .mark m, _ =>
    match mark? m with
    | some op =>
      skip
      return some op
    | none => return none
  | .name "in", _ =>
    skip
    return some .isIn
  | .name "not", .name "in" =>
    skip
    skip
    return some .notIn
  | .name "is", .name "not" =>
    skip
    skip
    return some .isNot
  | .name "is", _ =>
    skip
    return some .is
  | _, _ => return none

/-- Comparisons one after another. -/
def comparisons (R : Rules) : Nat → Parser (List (CompareOp × Expr))
  | 0 => return []
  | n + 1 => do
    match ← comparison? with
    | some op =>
      let e ← R.arithmetic levels
      return (op, e) :: (← R.comparisons n)
    | none => return []

/-- A comparison or its negation. -/
def inversionRule (R : Rules) : Parser Expr := do
  if ← takesWord "not" then return .unary .not (← R.inversion)
  let first ← R.arithmetic levels
  match ← R.comparisons (← count) with
  | [] => return first
  | rest => return .compare first rest

/-- A remark about a type that does nothing: the name of a class that every program has. -/
def plainRemark : Parser Unit := do
  match (← peek).lexeme with
  | .name x =>
    skip
    if !(["None", "object", "int", "bool", "float", "str", "bytes", "list", "tuple", "dict"].contains x) then leave
    match (← peek).lexeme with
    | .newline => return
    | .mark m => if !([",", ")", "=", ":", ";"].contains m) then leave
    | _ => leave
  | _ => leave

/-- Parameters up to a mark. -/
def params (R : Rules) (close : String) : Nat → Parser (List (String × Option Expr) × Option String)
  | 0 => return ([], none)
  | n + 1 => do
    if ← sees close then return ([], none)
    let t ← peek
    match t.lexeme with
    | .mark "*" =>
      skip
      match (← peek).lexeme with
      | .name x =>
        skip
        if keywords.contains x || !(← sees close) then leave else return ([], some x)
      | _ => leave
    | .mark "**" => leave
    | .mark "/" => leave
    | .name x =>
      if keywords.contains x then reject general
      else
        skip
        if close == ")" then
          if ← takes ":" then plainRemark
        let fallback ← if ← takes "=" then
            if (← sees close) || (← sees ",") then reject "expected default value expression"
            else pure (some (← R.expression))
          else pure none
        let more ← takes ","
        if !more then
          if !(← sees close) then reject general
          return ([(x, fallback)], none)
        let (rest, star) ← R.params close n
        if fallback.isSome && (rest.head?.map fun p => p.2.isNone).getD false then
          fail (.grammar "non-default argument follows default argument" t.line)
        if (rest.any fun p => p.1 == x) || star == some x then
          keep (.grammar ("duplicate argument '" ++ x ++ "' in function definition") t.line)
        return ((x, fallback) :: rest, star)
    | _ => reject general

/-- An expression. -/
def expressionRule (R : Rules) : Parser Expr := do
  if ← takesWord "lambda" then
    let (plain, rest) ← R.params ":" (← count)
    expect ":" general
    let body ← R.expression
    return .lambda (.mk plain rest) body
  let e ← R.disjunction
  if ← takesWord "if" then
    let c ← R.disjunction
    if !(← takesWord "else") then reject "expected 'else' after 'if' expression"
    return .cond c e (← R.expression)
  return e

/-! ## Simple statements -/

/-- A name. -/
def plainName : Parser String := do
  match (← peek).lexeme with
  | .name x =>
    if keywords.contains x then reject general
    else
      skip
      return x
  | _ => reject general

/-- A name with points in it. -/
def dottedName : Nat → Parser String
  | 0 => plainName
  | n + 1 => do
    let x ← plainName
    if ← takes "." then return x ++ "." ++ (← dottedName n) else return x

/-- What something is called here. -/
def alias_ (x : String) : Parser String := do
  if ← takesWord "as" then plainName else return x

/-- Names with commas between them. -/
def names : Nat → Parser (List String)
  | 0 => return []
  | n + 1 => do
    let x ← plainName
    if ← takes "," then return x :: (← names n) else return [x]

/-- The modules of an import. -/
def modules : Nat → Parser (List (String × String))
  | 0 => return []
  | n + 1 => do
    let x ← dottedName n
    let first := String.ofList (x.toList.takeWhile (· != '.'))
    let y ← alias_ first
    if ← takes "," then return (x, y) :: (← modules n) else return [(x, y)]

/-- The names of an import from a module. -/
def imported (close : Bool) : Nat → Parser (List (String × String))
  | 0 => return []
  | n + 1 => do
    if close then
      if ← sees ")" then return []
    let x ← plainName
    let y ← alias_ x
    if ← takes "," then
      if !close && (← seesNewline) then
        reject "trailing comma not allowed without surrounding parentheses"
      return (x, y) :: (← imported close n)
    else return [(x, y)]

/-- The operator of an assignment that changes a value. -/
def augmenting? : String → Option BinOp
  | "+=" => some .add
  | "-=" => some .sub
  | "*=" => some .mul
  | "/=" => some .div
  | "//=" => some .floorDiv
  | "%=" => some .mod
  | "**=" => some .pow
  | "&=" => some .bitAnd
  | "|=" => some .bitOr
  | "^=" => some .bitXor
  | "<<=" => some .shiftLeft
  | ">>=" => some .shiftRight
  | _ => none

/-- Does an operator of an assignment that changes a value follow? -/
def seesAugmenting : Parser Bool := do
  match (← peek).lexeme with
  | .mark m => return (augmenting? m).isSome
  | _ => return false

/-- The values after equals signs; the last one is what is assigned. -/
def assigned (R : Rules) : Nat → Parser (List Expr)
  | 0 => return []
  | n + 1 => do
    if ← takes "=" then
      let t ← peek
      let e ← R.expressions
      match e with
      | .star _ => keep (.grammar "can't use starred expression here" t.line)
      | _ => pure ()
      if (← sees ":") || (← seesAugmenting) then leave
      if ← sees "=" then checkTarget t.line false e
      return e :: (← R.assigned n)
    else return []

/-- A target with a remark about its type, after the target. -/
def annotated (R : Rules) (e : Expr) : Parser Stmt := do
  skip
  plainRemark
  if ← takes "=" then return .assign [e] (← unstarred (← R.expressions))
  else if (← get).inFunction then leave
  else return .pass

/-- A statement that begins with an expression. -/
def expressionStatement (R : Rules) : Parser Stmt := do
  let t ← peek
  let e ← R.expressions
  let next ← peek
  match e, next.lexeme with
  | _, .mark "=" =>
    checkTarget t.line true e
    let values ← R.assigned (← count)
    match values.getLast? with
    | some v => return .assign (e :: values.dropLast) v
    | none => return .expr e
  | _, .mark ":" =>
    match (← peekSecond).lexeme, e with
    | .newline, _ => return .expr e
    | .ended, _ => return .expr e
    | _, .name _ => R.annotated e
    | _, .attr _ _ => R.annotated e
    | _, .index _ _ => R.annotated e
    | _, _ => leave
  | _, .mark m =>
    match augmenting? m with
    | some op =>
      match e with
      | .name _ => pure ()
      | .attr _ _ => pure ()
      | .index _ _ => pure ()
      | .slice .. => pure ()
      | e =>
        fail (.grammar ("'" ++ kindName e ++ "' is an illegal expression for augmented assignment")
          t.line)
      skip
      return .augment e op (← unstarred (← R.expressions))
    | none => return .expr e
  | .name x, _ =>
    if (x == "print" || x == "exec") && startsOperand next then
      reject ("Missing parentheses in call to '" ++ x ++ "'. Did you mean " ++ x ++ "(...)?")
    else return .expr e
  | .star _, _ =>
    keep (.grammar "can't use starred expression here" t.line)
    return .expr e
  | _, _ => return .expr e

/-- Does a simple statement end here? -/
def seesEnd : Parser Bool := do
  return (← seesNewline) || (← sees ";")

/-- Is the expression a single place that can be taken away? -/
def isPlace : Expr → Bool
  | .name _ => true
  | .attr _ _ => true
  | .index _ _ => true
  | .slice .. => true
  | _ => false

/-- A simple statement. -/
def simple (R : Rules) : Parser Stmt := do
  let t ← peek
  let n ← count
  match t.lexeme with
  | .name "pass" =>
    skip
    return .pass
  | .name "break" =>
    skip
    if !(← get).inLoop then keep (.grammar "'break' outside loop" t.line)
    return .break
  | .name "continue" =>
    skip
    if !(← get).inLoop then keep (.grammar "'continue' not properly in loop" t.line)
    return .continue
  | .name "return" =>
    skip
    if !(← get).inFunction then keep (.grammar "'return' outside function" t.line)
    if ← seesEnd then return .return none else return .return (some (← unstarred (← R.expressions)))
  | .name "raise" =>
    skip
    if ← seesEnd then return .raise none none
    let e ← R.expression
    if ← takesWord "from" then return .raise (some e) (some (← R.expression))
    else return .raise (some e) none
  | .name "import" =>
    skip
    return .import (← modules n)
  | .name "from" =>
    skip
    if (← sees ".") || (← sees "...") then leave
    let x ← dottedName n
    expectWord "import" general
    if ← takes "*" then return .importFrom x [("*", "*")]
    if ← takes "(" then
      let xs ← imported true n
      expect ")" general
      return .importFrom x xs
    return .importFrom x (← imported false n)
  | .name "global" =>
    skip
    return .global (← names n)
  | .name "del" =>
    skip
    let e ← R.expressions
    match badTarget? targetDepth e with
    | some bad => fail (.grammar ("cannot delete " ++ kindName bad) t.line)
    | none => pure ()
    let targets := match e with
      | .tuple es => es
      | .list es => es
      | e => [e]
    if targets.all isPlace then return .delete targets else leave
  | .name "assert" =>
    skip
    let c ← R.expression
    if ← takes "," then return .assert c (some (← R.expression)) else return .assert c none
  | _ => R.expressionStatement

/-- Simple statements up to the end of the line. -/
def simples (R : Rules) : Nat → Parser (List Stmt)
  | 0 => return []
  | n + 1 => do
    let s ← R.simple
    if ← takes ";" then
      if ← seesNewline then
        skip
        return [s]
      return s :: (← R.simples n)
    if ← seesNewline then
      skip
      return [s]
    reject general

/-! ## Statements with blocks -/

/-- Statements of a block that has been opened. -/
def blockRest (R : Rules) : Nat → Parser (List Stmt)
  | 0 => return []
  | n + 1 => do
    match (← peek).lexeme with
    | .dedent =>
      skip
      return []
    | .ended => return []
    | _ =>
      let s ← R.statement
      return s ++ (← R.blockRest n)

/-- A colon and a block. -/
def block (R : Rules) (what : String) (line : Nat) (forced : Bool) : Parser (List Stmt) := do
  if !(← takes ":") then
    if forced || (← seesNewline) then reject "expected ':'" else reject general
  if ← seesNewline then
    skip
    let t ← peek
    match t.lexeme with
    | .indent =>
      skip
      R.blockRest (← count)
    | .bad c => fail c
    | .unclosed .. => reject general
    | _ =>
      fail (.layout ("expected an indented block after " ++ what ++ " on line " ++ toString line) t.line)
  else
    match (← peek).lexeme with
    | .name w =>
      if ["if", "while", "for", "try", "def", "class"].contains w then reject general
      else R.simples (← count)
    | _ => R.simples (← count)

/-- A block inside a loop. -/
def loopBlock (R : Rules) (what : String) (line : Nat) : Parser (List Stmt) := do
  let r ← get
  within r.inFunction true (R.block what line false)

/-- What is done otherwise, if anything is. -/
def otherwise (R : Rules) : Parser (List Stmt) := do
  let t ← peek
  if ← takesWord "else" then R.block "'else' statement" t.line true else return []

/-- The rest of a conditional after its word. -/
def conditional (R : Rules) (word : String) : Nat → Parser Stmt
  | 0 => reject general
  | n + 1 => do
    let t ← peek
    skip
    let c ← R.expression
    if ← sees "=" then reject "invalid syntax. Maybe you meant '==' or ':=' instead of '='?"
    let body ← R.block ("'" ++ word ++ "' statement") t.line false
    if ← seesWord "elif" then return .if c body [← R.conditional "elif" n]
    else return .if c body (← R.otherwise)

/-- The handlers of a statement. -/
def handlers (R : Rules) : Nat → Parser (List (Handled × List Stmt))
  | 0 => return []
  | n + 1 => do
    let t ← peek
    if ← takesWord "except" then
      if ← sees "*" then leave
      let bare := (← sees ":") || (← seesNewline)
      let taken ← if bare then pure none else pure (some (← R.expression))
      if ← sees "," then
        fail (.grammar "multiple exception types must be parenthesized" t.line)
      let name ← if ← takesWord "as" then pure (some (← plainName)) else pure none
      let body ← R.block "'except' statement" t.line false
      let rest ← R.handlers n
      if taken.isNone && !rest.isEmpty then keep (.grammar "default 'except:' must be last" t.line)
      return ((taken, name), body) :: rest
    else return []

/-- A statement with handlers, after its word. -/
def trying (R : Rules) (line : Nat) : Parser Stmt := do
  let body ← R.block "'try' statement" line true
  let hs ← R.handlers (← count)
  let orelse ← if hs.isEmpty then pure [] else R.otherwise
  let t ← peek
  let hasFinal ← takesWord "finally"
  let final ← if hasFinal then R.block "'finally' statement" t.line true else pure []
  if hs.isEmpty && !hasFinal then
    let t ← peek
    let line := match t.lexeme with
      | .ended => max line t.line
      | _ => t.line
    fail (.grammar "expected 'except' or 'finally' block" line)
  return .try body hs orelse final

/-- Declarations that names are global come first in a function, and not for its parameters; others are left
out. -/
def checkGlobals (params : List String) (body : List Stmt) : Parser Unit :=
  let first := Stmt.globalsIn (body.takeWhile fun
    | .global _ => true
    | _ => false)
  let all := Stmt.globalsIn body
  if first.length == all.length && !(all.any fun x => params.contains x) then return () else leave

/-- A statement, or the simple statements of a line. -/
def statementRule (R : Rules) : Parser (List Stmt) := do
  let t ← peek
  let n ← count
  match t.lexeme with
  | .name "if" => return [← R.conditional "if" n]
  | .name "while" =>
    skip
    let c ← R.expression
    let body ← R.loopBlock "'while' statement" t.line
    return [.while c body (← R.otherwise)]
  | .name "for" =>
    skip
    let line := (← peek).line
    let target ← R.targets n
    checkTarget line false target
    expectWord "in" general
    let source ← unstarred (← R.expressions)
    let body ← R.loopBlock "'for' statement" t.line
    return [.for target source body (← R.otherwise)]
  | .name "try" =>
    skip
    return [← R.trying t.line]
  | .name "def" =>
    skip
    let x ← plainName
    expect "(" "expected '('"
    let (plain, rest) ← R.params ")" n
    expect ")" general
    if ← takes "->" then plainRemark
    let body ← within true false (R.block "function definition" t.line true)
    checkGlobals (plain.map (·.1) ++ rest.toList) body
    return [.function x (.mk plain rest) body]
  | .name "class" =>
    skip
    let x ← plainName
    let bases ← if ← takes "(" then
        let (args, named) ← R.arguments n
        expect ")" general
        if named.isEmpty then pure args else leave
      else pure []
    let body ← within false false (R.block "class definition" t.line false)
    if (Stmt.globalsIn body).isEmpty then return [.klass x bases body] else leave
  | .newline =>
    skip
    return []
  | _ => R.simples n

end Rules

/-- The rules, tied together; each trip through the record uses up one unit. -/
def rules : Nat → Rules
  | 0 => ⟨leave, leave, leave, leave⟩
  | n + 1 =>
    { expression := fun r => (rules n).expressionRule r
      unary := fun r => (rules n).unaryRule r
      inversion := fun r => (rules n).inversionRule r
      statement := fun r => (rules n).statementRule r }

/-- Statements up to the end. -/
def programBody (R : Rules) : Nat → Parser (List Stmt)
  | 0 => return []
  | n + 1 => do
    match (← peek).lexeme with
    | .ended => return []
    | _ =>
      let s ← R.statement
      return s ++ (← programBody R n)

/-- Is the complaint about a part that is no token made only when the grammar gets there? -/
def Complaint.waits (c : Complaint) : Bool :=
  c.kind != "SyntaxError" ||
    ["unexpected EOF while parsing",
      "unexpected character after line continuation character"].contains c.message

/-- What is said in the end: a part that is no token comes before a complaint of the grammar, and so does a
bracket that was left open on an earlier line. Nothing comes before a line that is indented for no reason. -/
def Complaint.weigh (c : Complaint) (tokens : List Token) : Complaint :=
  match tokens.getLast? with
  | some ⟨.bad bad, _, _⟩ =>
    if c.message == "unexpected indent" || bad.waits then c else bad
  | some ⟨.unclosed bracket line, t, d⟩ =>
    if line < c.line.getD 0 || c.message == "invalid syntax. Perhaps you forgot a comma?" then
      Parser.unexpected ⟨.unclosed bracket line, t, d⟩ ""
    else c
  | _ => c

/-- Is there a line with more tokens than are read? The number counts those of the line so far. -/
def hasLongLine : Nat → List Token → Bool
  | _, [] => false
  | n, t :: rest =>
    match t.lexeme with
    | .newline => hasLongLine 0 rest
    | _ => rowLimit < n || hasLongLine (n + 1) rest

/-- How many tokens are read. -/
def programLimit : Nat := 20000

/-- The statements of a program. -/
def parseProgram (source : String) : Except Refusal (List Stmt) :=
  if source.toList.contains '\x00' then
    .error (.wrong ⟨"SyntaxError", "source code string cannot contain null bytes", none⟩)
  else
    let tokens := Token.scan source
    let R := rules (4 * tokens.length + 16)
    if programLimit < tokens.length || hasLongLine 0 tokens then .error .beyond
    else
      match programBody R (tokens.length + 1) ⟨tokens, none, false, false⟩ with
      | .error .beyond => .error .beyond
      | .error (.wrong c) =>
        if tokens.any Token.isLeftOut then .error .beyond else .error (.wrong (c.weigh tokens))
      | .ok (body, r) =>
        match r.late with
        | some c => .error (.wrong c)
        | none => if (Stmt.globalsIn body).isEmpty then .ok body else .error .beyond

end Snippet.Guest
