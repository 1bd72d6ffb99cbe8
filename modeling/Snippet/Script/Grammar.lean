import Snippet.Script.Complaint
/-!
From tokens to trees.

Each rule of the grammar is a parser over the tokens that are left. Rules that lead back to themselves
do so through a record `Rules`, which `rules` ties together: every trip through the record uses up one
unit of a budget that the number of tokens bounds.
-/

namespace Snippet.Script

open Snippet.Text

/-- A parser takes tokens from the front. -/
abbrev Parser := StateT (List Token) (Except Complaint)

namespace Parser

/-- Complains. -/
def fail {α : Type} (c : Complaint) : Parser α := fun _ => .error c

/-- The next token, if there is one. A part that is no token is complained about. -/
def peek? : Parser (Option Token) := fun ts =>
  match ts with
  | [] => .ok (none, ts)
  | t :: _ =>
    match t.lexeme with
    | .bad message none => .error (.malformed message)
    | .bad message (some (line, column)) => .error (.general message line column)
    | _ => .ok (some t, ts)

/-- The next token; there must be one. -/
def peek : Parser Token := do
  match ← peek? with
  | some t => return t
  | none => fail .abruptEnd

/-- Passes over the next token. -/
def skip : Parser Unit := fun ts => .ok ((), ts.drop 1)

/-- Is the next token the mark? -/
def sees (mark : String) : Parser Bool := do
  match ← peek? with
  | some t => match t.lexeme with
    | .mark m => return m == mark
    | _ => return false
  | none => return false

/-- Is the next token the word? -/
def seesWord (word : String) : Parser Bool := do
  match ← peek? with
  | some t => match t.lexeme with
    | .word w => return w == word
    | _ => return false
  | none => return false

/-- Takes the mark if it comes next, and says whether it did. -/
def takes (mark : String) : Parser Bool := do
  if ← sees mark then
    skip
    return true
  else return false

/-- Takes the mark if it is allowed and comes next, and says whether it did. -/
def takesIf (allowed : Bool) (mark : String) : Parser Bool := do
  if allowed then takes mark else return false

/-- Takes the word if it comes next, and says whether it did. -/
def takesWord (word : String) : Parser Bool := do
  if ← seesWord word then
    skip
    return true
  else return false

/-- Takes the mark, which must come next. -/
def expect (mark what : String) : Parser Unit := do
  let t ← peek
  if ← sees mark then skip else fail (.expected [mark] t what)

/-- How many tokens are left. -/
def count : Parser Nat := fun ts => .ok (ts.length, ts)

/-- The mark of a token. -/
def markOf (t : Token) : Option String :=
  match t.lexeme with
  | .mark m => some m
  | _ => none

/-- The end of a statement: a semicolon, or a place where one is understood. -/
def semicolonOr (wanted : List String) (what : String) : Parser Unit := do
  match ← peek? with
  | none => return
  | some t =>
    if markOf t == some ";" then skip
    else if markOf t == some "\x7d" || t.afterLine then return
    else fail (.expected wanted t what)

/-- The end of a statement. -/
def semicolon (what : String) : Parser Unit := semicolonOr [";"] what

end Parser

open Snippet.Script.Parser

/-- Words that are no names. -/
def reserved : List String :=
  ["break", "case", "catch", "class", "const", "continue", "debugger", "default", "delete", "do",
    "else", "enum", "export", "extends", "false", "finally", "for", "function", "if", "import", "in",
    "instanceof", "new", "null", "return", "super", "switch", "this", "throw", "true", "try",
    "typeof", "var", "void", "while", "with"]

/-- The rules that lead back to themselves. -/
structure Rules where
  assignment : Parser Expr
  unary : Parser Expr
  pattern : Parser Pattern
  statement : Parser Stmt
  /-- statements up to a closing brace -/
  statements : Parser (List Stmt)
  /-- statements up to a closing brace, as the body of a function -/
  functionStatements : Parser (List Stmt)
  /-- may a function be left here? -/
  returns : Bool

namespace Rules

/-! ## Names and patterns -/

/-- A name that is bound. -/
def bindingName (what : String) : Parser String := do
  let t ← peek
  match t.lexeme with
  | .word w =>
    if reserved.contains w then fail (.expected ["identifier"] t what)
    else
      skip
      return w
  | _ => fail (.expected ["identifier"] t what)

/-- A value to fall back on, after an equals sign. -/
def fallback? (R : Rules) : Parser (Option Expr) := do
  if ← takes "=" then return some (← R.assignment) else return none

/-- The places of an array pattern after its bracket, and what takes the rest. -/
def slots (R : Rules) : Nat → Parser (List Slot × Option Pattern)
  | 0 => fail .abruptEnd
  | fuel + 1 => do
    if ← takes "]" then return ([], none)
    else if ← takes "," then
      let (ss, rest) ← slots R fuel
      return (.skip :: ss, rest)
    else if ← takes "..." then
      let p ← R.pattern
      expect "]" "array binding pattern"
      return ([], some p)
    else
      let p ← R.pattern
      let d ← R.fallback?
      if ← takes "]" then return ([.take p d], none)
      else
        expect "," "array binding pattern"
        let (ss, rest) ← slots R fuel
        return (.take p d :: ss, rest)

/-- What a declaration binds. -/
def patternRule (R : Rules) : Parser Pattern := do
  if ← takes "[" then
    let (ss, rest) ← slots R (← count)
    return .array ss rest
  else return .leaf (.name (← bindingName "identifier parsing"))

/-- What an expression on the left of an equals sign stores into. -/
def targetOf? : Nat → Expr → Option Pattern
  | 0, _ => none
  | fuel + 1, e =>
    match e with
    | .name x => some (.leaf (.name x))
    | .member o k => some (.leaf (.member o k))
    | .index o k => some (.leaf (.index o k))
    | .array elements =>
      let init := elements.dropLast
      let slot : Element → Option Slot
        | .hole => some .skip
        | .item (.assign p d) => some (.take p (some d))
        | .item e => (targetOf? fuel e).map (.take · none)
        | .spread _ => none
      match elements.getLast? with
      | some (.spread last) => do return .array (← init.mapM slot) (some (← targetOf? fuel last))
      | _ => do return .array (← elements.mapM slot) none
    | _ => none

/-! ## Functions -/

/-- Parameters after the opening parenthesis. -/
def params (R : Rules) : Nat → Parser (List Slot × Option Pattern)
  | 0 => fail .abruptEnd
  | fuel + 1 => do
    if ← takes ")" then return ([], none)
    else if ← takes "..." then
      let p ← R.pattern
      expect ")" "formal parameters"
      return ([], some p)
    else
      let p ← R.pattern
      let d ← R.fallback?
      if ← takes ")" then return ([.take p d], none)
      else
        let t ← peek
        if !(← takes ",") then fail (.expected [",", ")"] t "parameter list")
        let (ss, rest) ← params R fuel
        return (.take p d :: ss, rest)

/-- Does a list of names hold one of them twice? -/
def repeats : List String → Bool
  | [] => false
  | x :: rest => rest.contains x || repeats rest

/-- Refuses statements that declare a name twice. -/
def checkNames (body : List Stmt) (functions : List String) (line column : Nat) : Parser Unit := do
  let lexical := (body.flatMap Stmt.lexicalNames).map (·.1)
  if repeats lexical || functions.any lexical.contains ||
      (Stmt.varNamesOf body).any lexical.contains then
    fail (.general "lexical name declared multiple times" line column)

/-- Refuses statements that leave a loop where there is none. -/
def checkJumps (body : List Stmt) : Parser Unit := do
  match Stmt.strayOf body with
  | some word => fail (.general ("illegal " ++ word ++ " statement") 1 1)
  | none => return

/-- Refuses a body that declares a parameter once more. -/
def checkParameters (names : List String) (body : List Stmt) (line column : Nat) : Parser Unit := do
  let lexical := (body.flatMap Stmt.lexicalNames).map (·.1)
  match names.find? lexical.contains with
  | some x =>
    fail (.general ("formal parameter \x60" ++ x ++ "\x60 declared in lexically declared names")
      line column)
  | none => return

/-- Statements in braces; a function body or not. -/
def braced (R : Rules) (ofFunction : Bool) (what : String) : Parser (List Stmt) := do
  expect "\x7b" what
  let t ← peek
  let body ← if ofFunction then R.functionStatements else R.statements
  expect "\x7d" what
  checkNames body ((Stmt.functionsOf body).map Func.name) t.line t.column
  if ofFunction then checkJumps body
  return body

/-- Parameters and body of a function. -/
def functionRest (R : Rules) (name what : String) (kind : FuncKind) : Parser Func := do
  let start ← peek
  expect "(" what
  let (ps, rest) ← R.params (← count)
  let body ← R.braced true what
  checkParameters (Slot.names ps ++ (rest.map Pattern.names).getD []) body start.line
    (start.column + 1)
  return .mk name ps rest body kind (isStrictBody body)

/-- A function after its word. -/
def functionRule (R : Rules) (named : Bool) (what : String) : Parser Func := do
  let anonymous ← sees "("
  let name ← if named || !anonymous then bindingName "identifier parsing" else pure ""
  R.functionRest name what .plain

/-- The body of an arrow after its mark. -/
def arrowBody (R : Rules) (ps : List Slot) (rest : Option Pattern) : Parser Expr := do
  let body : List Stmt ← if ← sees "\x7b" then R.braced true "arrow function" else do
    let e ← R.assignment
    pure [.ret (some e)]
  return .function (.mk "" ps rest body .arrow (isStrictBody body)) false

/-- What follows the parenthesis that closes the one in front. -/
def afterClosing : Nat → List Token → List Token
  | _, [] => []
  | depth, t :: rest =>
    match t.lexeme with
    | .mark m =>
      if m == "(" || m == "[" || m == "\x7b" then afterClosing (depth + 1) rest
      else if m == ")" || m == "]" || m == "\x7d" then
        if depth ≤ 1 then rest else afterClosing (depth - 1) rest
      else afterClosing depth rest
    | .templateHead _ => afterClosing (depth + 1) rest
    | .templateTail _ => if depth ≤ 1 then rest else afterClosing (depth - 1) rest
    | _ => afterClosing depth rest

/-- Does an arrow come next, given what stands in front of its mark? -/
def arrowAhead (ts : List Token) : Bool :=
  match ts with
  | t :: _ => Parser.markOf t == some "=>" && !t.afterLine
  | [] => false

/-- An arrow function, if one comes next. -/
def arrow? (R : Rules) : Parser (Option Expr) := do
  let ts ← get
  match ts with
  | t :: rest =>
    match t.lexeme with
    | .word w =>
      if !reserved.contains w && arrowAhead rest then
        set (rest.drop 1)
        return some (← R.arrowBody [.take (.leaf (.name w)) none] none)
      else return none
    | .mark "(" =>
      if arrowAhead (afterClosing 0 ts) then
        skip
        let (ps, last) ← R.params (← count)
        expect "=>" "arrow function"
        return some (← R.arrowBody ps last)
      else return none
    | _ => return none
  | [] => return none

/-! ## Primary expressions -/

/-- An expression: assignments with commas between them. -/
def expression (R : Rules) : Nat → Parser Expr
  | 0 => fail .abruptEnd
  | fuel + 1 => do
    let e ← R.assignment
    commas R fuel e
where
  /-- What follows the first part. -/
  commas (R : Rules) : Nat → Expr → Parser Expr
    | 0, e => return e
    | fuel + 1, e => do
      if ← takes "," then
        let r ← R.assignment
        commas R fuel (.sequence e r)
      else return e

/-- Elements up to the closing mark. -/
def elements (R : Rules) (close what : String) : Nat → Parser (List Element)
  | 0 => fail .abruptEnd
  | fuel + 1 => do
    if ← takes close then return []
    else if ← takesIf (close == "]") "," then
      return .hole :: (← elements R close what fuel)
    else
      let e ← if ← takes "..." then pure (.spread (← R.assignment)) else pure (.item (← R.assignment))
      if ← takes close then return [e]
      else
        let t ← peek
        if !(← takes ",") then fail (.expected [",", close] t what)
        return e :: (← elements R close what fuel)

/-- The values in a template and the texts after them. -/
def templateRest (R : Rules) : Nat → Parser (List TemplatePart)
  | 0 => fail .abruptEnd
  | fuel + 1 => do
    let e ← R.expression (← count)
    let t ← peek
    match t.lexeme with
    | .templateMiddle u =>
      skip
      return .mk e u :: (← templateRest R fuel)
    | .templateTail u =>
      skip
      return [.mk e u]
    | _ => fail (.expected ["\x7d"] t "template literal")

/-- The name of a member, and whether it is a plain word. -/
def memberKey (R : Rules) : Parser (Key × Option String) := do
  let t ← peek
  match t.lexeme with
  | .word w =>
    skip
    return (.fixed (Units.ofString w), some w)
  | .str s =>
    skip
    return (.fixed s, none)
  | .num n =>
    skip
    return (.fixed (Units.ofString (numberText n)), none)
  | .mark "[" =>
    skip
    let e ← R.assignment
    expect "]" "expected token ']'"
    return (.computed e, none)
  | _ => fail (.expected ["property name"] t "object literal")

/-- The name that a function takes over from its member. -/
def keyName : Key → String
  | .fixed k => k.escaped
  | .computed _ => ""

/-- A function as the value of a member takes over its name. -/
def namedValue (name : String) : Expr → Expr
  | .function f knows => .function (f.named name) knows
  | e => e

/-- One member of an object. -/
def member (R : Rules) : Parser Member := do
  if ← takes "..." then return .spread (← R.assignment)
  let (key, word) ← R.memberKey
  if ← takes ":" then return .field key (namedValue (keyName key) (← R.assignment))
  if ← sees "(" then
    let f ← R.functionRest (keyName key) "method definition" .method
    return .field key (.function f false)
  match word with
  | some w =>
    let plain ← (do
      match ← peek? with
      | some t => return [",", "\x7d"].contains ((Parser.markOf t).getD "")
      | none => return true)
    if (w == "get" || w == "set") && !plain then
      let (key, _) ← R.memberKey
      let f ← R.functionRest (w ++ " " ++ keyName key) "method definition" .method
      return if w == "get" then .getter key f else .setter key f
    else
      let t ← peek
      if plain && !reserved.contains w then return .field key (.name w)
      else fail (.expected [":"] t "property definition")
  | none =>
    let t ← peek
    fail (.expected [":"] t "property definition")

/-- Members up to the closing brace. -/
def members (R : Rules) : Nat → Parser (List Member)
  | 0 => fail .abruptEnd
  | fuel + 1 => do
    if ← takes "\x7d" then return []
    let m ← R.member
    if ← takes "\x7d" then return [m]
    else
      let t ← peek
      if !(← takes ",") then fail (.expected [",", "\x7d"] t "object literal")
      return m :: (← members R fuel)

/-- An expression that stands by itself. -/
def primary (R : Rules) : Parser Expr := do
  let t ← peek
  match t.lexeme with
  | .num n =>
    skip
    return .num n
  | .str s =>
    skip
    return .str s
  | .template s =>
    skip
    return .template s []
  | .templateHead s =>
    skip
    return .template s (← R.templateRest (← count))
  | .word w =>
    if w == "function" then
      skip
      let f ← R.functionRule false "function expression"
      return .function f (!f.name.isEmpty)
    else if w == "this" then
      skip
      return .this
    else if w == "null" then
      skip
      return .null
    else if w == "true" || w == "false" then
      skip
      return .bool (w == "true")
    else if reserved.contains w then fail (.unexpected t "primary expression")
    else
      skip
      return .name w
  | .mark "(" =>
    skip
    let e ← R.expression (← count)
    expect ")" "parenthesized expression"
    return e
  | .mark "[" =>
    skip
    return .array (← R.elements "]" "array literal" (← count))
  | .mark "\x7b" =>
    skip
    return .object (← R.members (← count))
  | _ => fail (.unexpected t "primary expression")

/-! ## Operators -/

/-- The name after a point. -/
def memberName : Parser Units := do
  let t ← peek
  match t.lexeme with
  | .word w =>
    skip
    return Units.ofString w
  | _ => fail (.expected ["identifier"] t "member expression")

/-- Members and calls after an expression; calls only where they are allowed. -/
def suffixes (R : Rules) (calls : Bool) : Nat → Expr → Parser Expr
  | 0, e => return e
  | fuel + 1, e => do
    if ← takes "." then suffixes R calls fuel (.member e (← memberName))
    else if ← takes "[" then
      let k ← R.expression (← count)
      expect "]" "member expression"
      suffixes R calls fuel (.index e k)
    else if ← takesIf calls "(" then
      suffixes R calls fuel (.call e (← R.elements ")" "argument list" (← count)))
    else return e

/-- A construction after its word: what is constructed, and its arguments if there are any. -/
def construction (R : Rules) : Parser Expr := do
  let f ← R.suffixes false (← count) (← R.primary)
  let args ← if ← takes "(" then R.elements ")" "argument list" (← count) else pure []
  return .construct f args

/-- What can stand on the left of an equals sign. -/
def leftHandSide (R : Rules) : Parser Expr := do
  let e ← if ← takesWord "new" then R.construction else R.primary
  R.suffixes true (← count) e

/-- Can the expression be stored into directly? -/
def isPlace : Expr → Bool
  | .name _ => true
  | .member .. => true
  | .index .. => true
  | _ => false

/-- What is said of a value that cannot be stored into. -/
def notPlace (t : Token) : Complaint :=
  .general "Invalid left-hand side in assignment" t.line t.column

/-- An expression with an increment or decrement after it. -/
def postfixed (R : Rules) : Parser Expr := do
  let e ← R.leftHandSide
  match ← peek? with
  | some t =>
    let step : Option Int := match Parser.markOf t with
      | some "++" => some 1
      | some "--" => some (-1)
      | _ => none
    match step with
    | some by_ =>
      if t.afterLine then return e
      else if isPlace e then
        skip
        return .update by_ false e
      else fail (notPlace t)
    | none => return e
  | none => return e

/-- An expression with an increment or decrement at one of its ends. -/
def updateRule (R : Rules) : Parser Expr := do
  let t ← peek
  let step : Option Int := match t.lexeme with
    | .mark "++" => some 1
    | .mark "--" => some (-1)
    | _ => none
  match step with
  | some by_ =>
    skip
    let e ← R.unary
    if isPlace e then return .update by_ true e else fail (notPlace t)
  | none => R.postfixed

/-- The operator that a token in front of an operand stands for. -/
def unaryOf? : Lexeme → Option UnaryOp
  | .mark "-" => some .negate
  | .mark "+" => some .plus
  | .mark "!" => some .not
  | .mark "~" => some .complement
  | .word "typeof" => some .typeOf
  | .word "void" => some .discard
  | .word "delete" => some .delete
  | _ => none

/-- An operand with the operators in front of it. -/
def unaryRule (R : Rules) : Parser Expr := do
  let t ← peek
  match unaryOf? t.lexeme with
  | some op =>
    skip
    return .unary op (← R.unary)
  | none => R.updateRule

/-- An operand, raised to the power of another one if that follows; a sign in front of the first is
not allowed then. -/
def powered (R : Rules) : Nat → Parser Expr
  | 0 => fail .abruptEnd
  | fuel + 1 => do
    let t ← peek
    if (unaryOf? t.lexeme).isSome then R.unary
    else
      let e ← R.updateRule
      if ← takes "**" then return .binary .pow e (← powered R fuel) else return e

/-- How tightly an operator between two operands binds, and what it is. -/
def binaryOf? : Lexeme → Option (Nat × BinaryOp)
  | .mark "|" => some (1, .bitOr)
  | .mark "^" => some (2, .bitXor)
  | .mark "&" => some (3, .bitAnd)
  | .mark "==" => some (4, .looseEqual)
  | .mark "!=" => some (4, .looseUnequal)
  | .mark "===" => some (4, .strictEqual)
  | .mark "!==" => some (4, .strictUnequal)
  | .mark "<" => some (5, .less)
  | .mark ">" => some (5, .greater)
  | .mark "<=" => some (5, .lessEqual)
  | .mark ">=" => some (5, .greaterEqual)
  | .word "instanceof" => some (5, .instanceOf)
  | .word "in" => some (5, .isIn)
  | .mark "<<" => some (6, .shiftLeft)
  | .mark ">>" => some (6, .shiftRight)
  | .mark ">>>" => some (6, .shiftRightZero)
  | .mark "+" => some (7, .add)
  | .mark "-" => some (7, .sub)
  | .mark "*" => some (8, .mul)
  | .mark "/" => some (8, .div)
  | .mark "%" => some (8, .rem)
  | _ => none

/-- Operands with operators that bind at least as tightly as `least`, after a first operand. -/
def joined (R : Rules) : Nat → Nat → Expr → Parser Expr
  | 0, _, l => return l
  | fuel + 1, least, l => do
    match ← peek? with
    | none => return l
    | some t =>
      match binaryOf? t.lexeme with
      | none => return l
      | some (level, op) =>
        if level < least then return l
        else
          skip
          let first ← R.powered (← count)
          let r ← joined R fuel (level + 1) first
          joined R fuel least (.binary op l r)

/-- Operands and operators, none of which leaves an operand alone. -/
def operand (R : Rules) : Parser Expr := do R.joined (← count) 1 (← R.powered (← count))

/-- Operands that may be left alone, after a first one. A fallback for nothing does not stand next to
one of the other two operators; `before` is the operator to the left. -/
def chained (R : Rules) : Nat → Option LogicalOp → Expr → Parser Expr
  | 0, _, l => return l
  | fuel + 1, before, l => do
    match ← peek? with
    | none => return l
    | some t =>
      let plain : Parser Unit :=
        if before == some .coalesce then
          fail (.expected ["??"] t
            "logical expression (cannot use '??' without parentheses within '||' or '&&')")
        else skip
      match t.lexeme with
      | .mark "&&" =>
        plain
        chained R fuel (some .and) (.logical .and l (← R.operand))
      | .mark "||" =>
        plain
        let r ← chained R fuel (some .or) (← R.operand)
        chained R fuel (some .or) (.logical .or l r)
      | .mark "??" =>
        if before == some .and || before == some .or then
          fail (.expected ["&&", "||"] t "cannot use '??' unparenthesized within '||' or '&&'")
        skip
        chained R fuel (some .coalesce) (.logical .coalesce l (← R.operand))
      | _ => return l

/-- Operands and operators, and perhaps a choice between two expressions. -/
def conditional (R : Rules) : Parser Expr := do
  let c ← R.chained (← count) none (← R.operand)
  if ← takes "?" then
    let t ← R.assignment
    expect ":" "conditional expression"
    return .conditional c t (← R.assignment)
  else return c

/-- The operator of a compound assignment. -/
def compoundOf? : Lexeme → Option Compound
  | .mark "+=" => some (.binary .add)
  | .mark "-=" => some (.binary .sub)
  | .mark "*=" => some (.binary .mul)
  | .mark "/=" => some (.binary .div)
  | .mark "%=" => some (.binary .rem)
  | .mark "**=" => some (.binary .pow)
  | .mark "<<=" => some (.binary .shiftLeft)
  | .mark ">>=" => some (.binary .shiftRight)
  | .mark ">>>=" => some (.binary .shiftRightZero)
  | .mark "&=" => some (.binary .bitAnd)
  | .mark "|=" => some (.binary .bitOr)
  | .mark "^=" => some (.binary .bitXor)
  | .mark "&&=" => some (.logical .and)
  | .mark "||=" => some (.logical .or)
  | .mark "??=" => some (.logical .coalesce)
  | _ => none

/-- The name that a function takes over from the name it is stored under. -/
def assignedName : Expr → String
  | .name x => x
  | _ => ""

/-- A whole expression without commas. -/
def assignmentRule (R : Rules) : Parser Expr := do
  match ← R.arrow? with
  | some e => return e
  | none =>
    let e ← R.conditional
    match ← peek? with
    | none => return e
    | some t =>
      if Parser.markOf t == some "=" then
        match targetOf? (← count) e with
        | none =>
          match targetOf? 1000 e with
          | some p =>
            skip
            return .assign p (namedValue (assignedName e) (← R.assignment))
          | none => fail (notPlace t)
        | some p =>
          skip
          return .assign p (namedValue (assignedName e) (← R.assignment))
      else match compoundOf? t.lexeme with
        | some op =>
          if isPlace e then
            skip
            return .compound op e (namedValue (assignedName e) (← R.assignment))
          else fail (notPlace t)
        | none => return e

/-! ## Statements -/

/-- A condition in parentheses. -/
def condition (R : Rules) (what : String) : Parser Expr := do
  expect "(" what
  let e ← R.expression (← count)
  expect ")" what
  return e

/-- One binding of a declaration. -/
def binding (R : Rules) (kind : DeclKind) (what : String) : Parser Slot := do
  let p ← R.pattern
  let d ← R.fallback?
  let name := match p with
    | .leaf e => assignedName e
    | _ => ""
  if d.isNone then
    match p with
    | .leaf _ =>
      if kind = .constBinding then
        let t ← peek
        fail (.general "Expected initializer for const declaration" t.line t.column)
    | _ =>
      let t ← peek
      fail (.expected ["="] t what)
  return .take p (d.map (namedValue name))

/-- Bindings with commas between them. -/
def bindings (R : Rules) (kind : DeclKind) (what : String) : Nat → Parser (List Slot)
  | 0 => fail .abruptEnd
  | fuel + 1 => do
    let b ← R.binding kind what
    if ← takes "," then return b :: (← bindings R kind what fuel) else return [b]

/-- The kind of declaration that comes next, if one does. -/
def declKind? : Parser (Option DeclKind) := do
  let ts ← get
  match ts with
  | t :: rest =>
    match t.lexeme with
    | .word "var" => return some .var
    | .word "const" => return some .constBinding
    | .word "let" =>
      match rest with
      | n :: _ =>
        match n.lexeme with
        | .word w => return if ["in", "instanceof"].contains w then none else some .letBinding
        | .mark m => return if m == "[" || m == "\x7b" then some .letBinding else none
        | .bad .. => return none
        | _ => return none
      | [] => return some .letBinding
    | _ => return none
  | [] => return none

/-- The end of a declaration. -/
def declarationEnd : DeclKind → Parser Unit
  | .var => semicolon "variable statement"
  | _ => semicolonOr [";", "line terminator"] "lexical declaration binding list"

/-- A loop over a counter, after its first part. -/
def forRest (R : Rules) (init : Stmt) : Parser Stmt := do
  let test ← if ← takes ";" then pure none else do
    let e ← R.expression (← count)
    expect ";" "for statement"
    pure (some e)
  let step ← if ← takes ")" then pure none else do
    let e ← R.expression (← count)
    expect ")" "for statement"
    pure (some e)
  return .forLoop init test step (← R.statement)

/-- A loop over the items of a value, after its word `of`. -/
def forOfRest (R : Rules) (kind : Option DeclKind) (p : Pattern) : Parser Stmt := do
  let e ← R.assignment
  expect ")" "for of statement"
  return .forOf kind p e (← R.statement)

/-- A loop after its word `for`. -/
def forRule (R : Rules) : Parser Stmt := do
  expect "(" "for statement"
  match ← declKind? with
  | some kind =>
    skip
    let start ← get
    let p ← R.pattern
    if ← takesWord "of" then R.forOfRest (some kind) p
    else
      set start
      let bs ← R.bindings kind "initializer" (← count)
      expect ";" "for statement"
      R.forRest (.declare kind bs)
  | none =>
    if ← takes ";" then R.forRest .empty
    else
      let t ← peek
      let e ← R.expression (← count)
      if ← takesWord "of" then
        match targetOf? 1000 e with
        | some p => R.forOfRest none p
        | none => fail (notPlace t)
      else
        expect ";" "for statement"
        R.forRest (.expr e)

/-- An attempt after its word: a block, and what follows an exception or in any case. -/
def tryRule (R : Rules) : Parser Stmt := do
  let body ← R.braced false "try statement"
  let t ← peek
  let (param, handler) ← if ← takesWord "catch" then do
      let param ← if ← takes "(" then do
          let p ← R.pattern
          expect ")" "catch in try statement"
          pure (some p)
        else pure none
      pure (param, some (← R.braced false "catch"))
    else pure (none, none)
  let finalizer ← if ← takesWord "finally" then pure (some (← R.braced false "finally")) else pure none
  if handler.isNone && finalizer.isNone then
    fail (.expected ["catch", "finally"] t "try statement")
  return .tryCatch body param handler finalizer

/-- A statement or declaration. -/
def statementRule (R : Rules) : Parser Stmt := do
  let t ← peek
  match ← declKind? with
  | some kind =>
    skip
    let bs ← R.bindings kind "initializer" (← count)
    declarationEnd kind
    return .declare kind bs
  | none =>
    match t.lexeme with
    | .mark "\x7b" => return .block (← R.braced false "block")
    | .mark ";" =>
      skip
      return .empty
    | .word w =>
      if w == "function" then
        skip
        return .function (← R.functionRule true "function declaration")
      else if w == "if" then
        skip
        let c ← R.condition "if statement"
        let yes ← R.statement
        let no ← if ← takesWord "else" then pure (some (← R.statement)) else pure none
        return .ifElse c yes no
      else if w == "while" then
        skip
        let c ← R.condition "while statement"
        return .whileLoop c (← R.statement)
      else if w == "do" then
        skip
        let body ← R.statement
        let t ← peek
        if !(← takesWord "while") then fail (.expected ["while"] t "do-while statement")
        let c ← R.condition "do-while statement"
        let _ ← takes ";"
        return .doWhile body c
      else if w == "for" then
        skip
        R.forRule
      else if w == "break" then
        skip
        semicolon "break statement"
        return .breakLoop
      else if w == "continue" then
        skip
        semicolon "continue statement"
        return .continueLoop
      else if w == "return" then
        if !R.returns then fail (.unexpected t "statement")
        skip
        let ended ← (do
          match ← peek? with
          | none => return true
          | some t => return t.afterLine || [";", "\x7d"].contains ((Parser.markOf t).getD ""))
        let e ← if ended then pure none else pure (some (← R.expression (← count)))
        semicolon "return statement"
        return .ret e
      else if w == "throw" then
        skip
        let e ← R.expression (← count)
        semicolon "throw statement"
        return .throw e
      else if w == "try" then
        skip
        R.tryRule
      else
        let e ← R.expression (← count)
        semicolon "expression statement"
        return .expr e
    | _ =>
      let e ← R.expression (← count)
      semicolon "expression statement"
      return .expr e

/-- Statements up to a closing brace or the end. -/
def statementsRule (R : Rules) : Nat → Parser (List Stmt)
  | 0 => return []
  | fuel + 1 => do
    match ← peek? with
    | none => return []
    | some t =>
      if Parser.markOf t == some "\x7d" then return []
      else
        let s ← R.statement
        return s :: (← statementsRule R fuel)

end Rules

/-- The rules, tied together; each trip through the record uses up one unit. -/
def rules (returns : Bool) : Nat → Rules
  | 0 =>
    ⟨fail .abruptEnd, fail .abruptEnd, fail .abruptEnd, fail .abruptEnd, fail .abruptEnd,
      fail .abruptEnd, returns⟩
  | n + 1 =>
    { assignment := fun ts => (rules returns n).assignmentRule ts
      unary := fun ts => (rules returns n).unaryRule ts
      pattern := fun ts => (rules returns n).patternRule ts
      statement := fun ts => (rules returns n).statementRule ts
      statements := fun ts => (rules returns n).statementsRule (ts.length + 1) ts
      functionStatements := fun ts => (rules true n).statementsRule (ts.length + 1) ts
      returns := returns }

/-- Statements up to the end; a closing brace is complained about. -/
def scriptBody (R : Rules) : Nat → Parser (List Stmt)
  | 0 => return []
  | fuel + 1 => do
    match ← peek? with
    | none => return []
    | some _ =>
      let s ← R.statement
      return s :: (← scriptBody R fuel)

/-- The statements of a script. -/
def parseScript (source : String) : Except Complaint (List Stmt) :=
  let ts := Token.scan source
  let R := rules false (4 * ts.length + 16)
  let parser : Parser (List Stmt) := do
    let body ← scriptBody R (ts.length + 1)
    Rules.checkJumps body
    Rules.checkNames body ((Stmt.functionsOf body).map Func.name) 1 1
    return body
  (parser ts).map (·.1)

end Snippet.Script
