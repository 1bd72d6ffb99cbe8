import Snippet.Text.Units
import Snippet.Decimal.Reading
/-!
Scripts as trees.

The language is the common core of JavaScript: values of the usual kinds, functions with closures,
structured control flow, exceptions, and patterns that take arrays apart.
-/

namespace Snippet.Script

open Snippet.Text

/-- Operators with one operand. -/
inductive UnaryOp where
  | negate
  | plus
  | not
  | complement
  | typeOf
  | discard
  | delete
  deriving Repr, DecidableEq

/-- Operators that evaluate both operands. -/
inductive BinaryOp where
  | add
  | sub
  | mul
  | div
  | rem
  | pow
  | less
  | greater
  | lessEqual
  | greaterEqual
  | looseEqual
  | looseUnequal
  | strictEqual
  | strictUnequal
  | bitAnd
  | bitOr
  | bitXor
  | shiftLeft
  | shiftRight
  | shiftRightZero
  | instanceOf
  | isIn
  deriving Repr, DecidableEq

/-- Operators that may leave their right operand alone. -/
inductive LogicalOp where
  | and
  | or
  | coalesce
  deriving Repr, DecidableEq

/-- What stands before an equals sign in a compound assignment. -/
inductive Compound where
  | binary (op : BinaryOp)
  | logical (op : LogicalOp)
  deriving Repr, DecidableEq

/-- How a name is declared. -/
inductive DeclKind where
  | var
  | letBinding
  | constBinding
  deriving Repr, DecidableEq

/-- The kinds of functions. -/
inductive FuncKind where
  | plain
  /-- it has no receiver of its own -/
  | arrow
  /-- it belongs to an object and makes none -/
  | method
  deriving Repr, DecidableEq

mutual

/-- Expressions. -/
inductive Expr where
  | undefined
  | null
  | bool (b : Bool)
  | num (n : Json.Num)
  | str (s : Units)
  | this
  | name (x : String)
  /-- text with values in between, each followed by more text -/
  | template (first : Units) (rest : List TemplatePart)
  | array (elements : List Element)
  | object (members : List Member)
  /-- a function, which may be known to itself by its name -/
  | function (f : Func) (knowsItself : Bool)
  | unary (op : UnaryOp) (e : Expr)
  /-- an increment or decrement; its value is the new one, or the old one -/
  | update (by_ : Int) (yieldsNew : Bool) (target : Expr)
  | binary (op : BinaryOp) (l r : Expr)
  | logical (op : LogicalOp) (l r : Expr)
  | assign (target : Pattern) (e : Expr)
  | compound (op : Compound) (target : Expr) (e : Expr)
  | conditional (c t e : Expr)
  | sequence (l r : Expr)
  | call (f : Expr) (args : List Element)
  | construct (f : Expr) (args : List Element)
  | member (e : Expr) (key : Units)
  | index (e key : Expr)

/-- A value in a template, and the text after it. -/
inductive TemplatePart where
  | mk (e : Expr) (text : Units)

/-- An element of an array, or an argument. -/
inductive Element where
  | hole
  | item (e : Expr)
  | spread (e : Expr)

/-- The name of a member. -/
inductive Key where
  | fixed (key : Units)
  | computed (e : Expr)

/-- A member of an object. -/
inductive Member where
  | field (key : Key) (e : Expr)
  | getter (key : Key) (f : Func)
  | setter (key : Key) (f : Func)
  | spread (e : Expr)

/-- What a value is stored into. -/
inductive Pattern where
  | leaf (target : Expr)
  | array (slots : List Slot) (rest : Option Pattern)

/-- A place in a pattern: passed over, or stored with a value to fall back on. -/
inductive Slot where
  | skip
  | take (p : Pattern) (fallback : Option Expr)

/-- A function: its name, parameters and body. -/
inductive Func where
  | mk (name : String) (params : List Slot) (rest : Option Pattern) (body : List Stmt)
      (kind : FuncKind) (strict : Bool)

/-- Statements. -/
inductive Stmt where
  | empty
  | expr (e : Expr)
  | block (body : List Stmt)
  | declare (kind : DeclKind) (bindings : List Slot)
  | function (f : Func)
  | ifElse (c : Expr) (t : Stmt) (e : Option Stmt)
  | whileLoop (c : Expr) (body : Stmt)
  | doWhile (body : Stmt) (c : Expr)
  | forLoop (init : Stmt) (test step : Option Expr) (body : Stmt)
  | forOf (kind : Option DeclKind) (p : Pattern) (e : Expr) (body : Stmt)
  | breakLoop
  | continueLoop
  | ret (e : Option Expr)
  | throw (e : Expr)
  | tryCatch (body : List Stmt) (param : Option Pattern) (handler finalizer : Option (List Stmt))

end

instance : Inhabited Expr := ⟨.undefined⟩
instance : Inhabited Stmt := ⟨.empty⟩

namespace Func

/-- The name of a function. -/
def name : Func → String
  | mk name .. => name

/-- Its parameters. -/
def params : Func → List Slot
  | mk _ params .. => params

/-- What takes the arguments beyond the parameters. -/
def rest : Func → Option Pattern
  | mk _ _ rest .. => rest

/-- Its body. -/
def body : Func → List Stmt
  | mk _ _ _ body .. => body

/-- Its kind. -/
def kind : Func → FuncKind
  | mk _ _ _ _ kind _ => kind

/-- Are assignments to undeclared names refused in it? -/
def isStrict : Func → Bool
  | mk _ _ _ _ _ strict => strict

/-- The same function under another name, if it has none of its own. -/
def named (name : String) : Func → Func
  | mk own params rest body kind strict =>
    mk (if own.isEmpty then name else own) params rest body kind strict

/-- Is the parameter one that an argument is expected for? -/
def isExpected : Slot → Bool
  | .take _ none => true
  | _ => false

/-- How many arguments it expects: the parameters before the first that has a fallback. -/
def expected (f : Func) : Nat := (f.params.takeWhile isExpected).length

end Func

/-! ## Declared names -/

mutual

/-- The names that a pattern binds. -/
def Pattern.names : Pattern → List String
  | .leaf (.name x) => [x]
  | .leaf _ => []
  | .array slots none => Slot.names slots
  | .array slots (some rest) => Slot.names slots ++ rest.names

/-- The names that places bind. -/
def Slot.names : List Slot → List String
  | [] => []
  | .skip :: rest => Slot.names rest
  | .take p _ :: rest => p.names ++ Slot.names rest

end

mutual

/-- The names that a statement declares for the whole function around it. -/
def Stmt.varNames : Stmt → List String
  | .declare .var slots => Slot.names slots
  | .block body => Stmt.varNamesOf body
  | .ifElse _ t none => t.varNames
  | .ifElse _ t (some e) => t.varNames ++ e.varNames
  | .whileLoop _ body => body.varNames
  | .doWhile body _ => body.varNames
  | .forLoop init _ _ body => init.varNames ++ body.varNames
  | .forOf (some .var) p _ body => p.names ++ body.varNames
  | .forOf _ _ _ body => body.varNames
  | .tryCatch body _ none none => Stmt.varNamesOf body
  | .tryCatch body _ (some handler) none => Stmt.varNamesOf body ++ Stmt.varNamesOf handler
  | .tryCatch body _ none (some finalizer) => Stmt.varNamesOf body ++ Stmt.varNamesOf finalizer
  | .tryCatch body _ (some handler) (some finalizer) =>
    Stmt.varNamesOf body ++ Stmt.varNamesOf handler ++ Stmt.varNamesOf finalizer
  | _ => []

/-- The names that statements declare for the whole function around them. -/
def Stmt.varNamesOf : List Stmt → List String
  | [] => []
  | s :: rest => s.varNames ++ Stmt.varNamesOf rest

end

/-- The names that a statement declares for the block it stands in, and whether they may change. -/
def Stmt.lexicalNames : Stmt → List (String × Bool)
  | .declare .letBinding slots => (Slot.names slots).map (·, true)
  | .declare .constBinding slots => (Slot.names slots).map (·, false)
  | _ => []

/-- The functions that statements declare in the block they stand in. -/
def Stmt.functionsOf (body : List Stmt) : List Func :=
  body.filterMap fun
    | .function f => some f
    | _ => none

mutual

/-- The word of a statement that leaves a loop, or begins its next round, where there is none. -/
def Stmt.stray? : Stmt → Option String
  | .breakLoop => some "break"
  | .continueLoop => some "continue"
  | .block body => Stmt.strayOf body
  | .ifElse _ t none => t.stray?
  | .ifElse _ t (some e) => t.stray?.or e.stray?
  | .tryCatch body _ none none => Stmt.strayOf body
  | .tryCatch body _ (some handler) none => (Stmt.strayOf body).or (Stmt.strayOf handler)
  | .tryCatch body _ none (some finalizer) => (Stmt.strayOf body).or (Stmt.strayOf finalizer)
  | .tryCatch body _ (some handler) (some finalizer) =>
    ((Stmt.strayOf body).or (Stmt.strayOf handler)).or (Stmt.strayOf finalizer)
  | _ => none

/-- The first such word among statements. -/
def Stmt.strayOf : List Stmt → Option String
  | [] => none
  | s :: rest => s.stray?.or (Stmt.strayOf rest)

end

/-- Does the body begin with the directive that refuses assignments to undeclared names? -/
def isStrictBody : List Stmt → Bool
  | .expr (.str s) :: rest => s == Units.ofString "use strict" || isStrictBody rest
  | _ => false

end Snippet.Script
