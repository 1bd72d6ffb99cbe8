import Snippet.Text.Points
/-!
Guest programs as trees.

A guest is a program in the language of the interpreter. The trees cover expressions over numbers, text
and containers, functions, classes and exceptions.
-/

namespace Snippet.Guest

open Snippet.Text

/-- Operators between two values. -/
inductive BinOp where
  | add | sub | mul | div | floorDiv | mod | pow | bitAnd | bitOr | bitXor | shiftLeft | shiftRight
  deriving Repr, DecidableEq, Inhabited

/-- Operators in front of a value. -/
inductive UnaryOp where
  | minus | plus | invert | not
  deriving Repr, DecidableEq, Inhabited

/-- Comparisons. -/
inductive CompareOp where
  | lt | le | gt | ge | eq | ne | isIn | notIn | is | isNot
  deriving Repr, DecidableEq, Inhabited

mutual

/-- Expressions. -/
inductive Expr where
  | none
  | bool (b : Bool)
  | int (n : Int)
  | float (x : Float)
  | str (p : Points)
  | bytes (p : Points)
  /-- text with values in between -/
  | format (parts : List Part)
  | name (x : String)
  | tuple (items : List Expr)
  | list (items : List Expr)
  /-- pairs of key and value -/
  | dict (items : List (Expr × Expr))
  | unary (op : UnaryOp) (e : Expr)
  | binary (op : BinOp) (a b : Expr)
  | compare (first : Expr) (rest : List (CompareOp × Expr))
  | and (a b : Expr)
  | or (a b : Expr)
  | cond (c a b : Expr)
  /-- a call with arguments in order and by name -/
  | call (f : Expr) (args : List Expr) (named : List (String × Expr))
  | attr (e : Expr) (x : String)
  | index (e i : Expr)
  /-- part of a sequence -/
  | slice (e : Expr) (from_ until_ step : Option Expr)
  | lambda (params : Params) (body : Expr)
  /-- a list of values over a loop -/
  | listOf (item : Expr) (loops : List Loop)
  /-- several arguments, or several targets, in the place of one -/
  | star (e : Expr)

/-- A part of a text with values in between. -/
inductive Part where
  | text (p : Points)
  /-- a value, the conversion asked for, and its format -/
  | value (e : Expr) (conversion : Option Char) (spec : Points)

/-- A loop of a list, with its conditions. -/
inductive Loop where
  | mk (target source : Expr) (conditions : List Expr)

/-- Parameters: names with what stands in for a missing argument, and the name that takes the rest. -/
inductive Params where
  | mk (plain : List (String × Option Expr)) (rest : Option String)

end

instance : Inhabited Expr := ⟨.none⟩

/-- Which exceptions a handler takes, the name that it gives them, and what it does; used in
statements. -/
abbrev Handled := Option Expr × Option String

/-- Statements. -/
inductive Stmt where
  | expr (e : Expr)
  | assign (targets : List Expr) (e : Expr)
  | augment (target : Expr) (op : BinOp) (e : Expr)
  | pass
  | break
  | continue
  | return (e : Option Expr)
  /-- raises a value, perhaps with a cause, or again what is being handled -/
  | raise (e cause : Option Expr)
  /-- modules by name, and what they are called here -/
  | import (modules : List (String × String))
  | importFrom (module : String) (names : List (String × String))
  | global (names : List String)
  | delete (targets : List Expr)
  | assert (c : Expr) (message : Option Expr)
  | if (c : Expr) (body orelse : List Stmt)
  | while (c : Expr) (body orelse : List Stmt)
  | for (target source : Expr) (body orelse : List Stmt)
  | try (body : List Stmt) (handlers : List (Handled × List Stmt)) (orelse final : List Stmt)
  | function (name : String) (params : Params) (body : List Stmt)
  | klass (name : String) (bases : List Expr) (body : List Stmt)

instance : Inhabited Stmt := ⟨.pass⟩

/-! ## Names -/

/-- The names that a target binds. -/
def Expr.targetNames : Expr → List String
  | .name x => [x]
  | .tuple items => namesOf items
  | .list items => namesOf items
  | .star e => e.targetNames
  | _ => []
where
  namesOf : List Expr → List String
    | [] => []
    | e :: rest => e.targetNames ++ namesOf rest

mutual

/-- The names that a statement binds, apart from those in functions and classes inside it. -/
def Stmt.boundNames : Stmt → List String
  | .assign targets _ => targets.flatMap Expr.targetNames
  | .augment target _ _ => target.targetNames
  | .import modules => modules.map (·.2)
  | .importFrom _ names => names.map (·.2)
  | .delete targets => targets.flatMap Expr.targetNames
  | .if _ body orelse => Stmt.boundIn body ++ Stmt.boundIn orelse
  | .while _ body orelse => Stmt.boundIn body ++ Stmt.boundIn orelse
  | .for target _ body orelse => target.targetNames ++ Stmt.boundIn body ++ Stmt.boundIn orelse
  | .try body handlers orelse final =>
    Stmt.boundIn body ++ Stmt.boundInHandlers handlers ++ Stmt.boundIn orelse ++ Stmt.boundIn final
  | .function name _ _ => [name]
  | .klass name _ _ => [name]
  | _ => []

/-- The names that statements bind. -/
def Stmt.boundIn : List Stmt → List String
  | [] => []
  | s :: rest => s.boundNames ++ Stmt.boundIn rest

/-- The names that handlers bind. -/
def Stmt.boundInHandlers : List (Handled × List Stmt) → List String
  | [] => []
  | ((_, name), body) :: rest => name.toList ++ Stmt.boundIn body ++ Stmt.boundInHandlers rest

end

mutual

/-- The names that a statement declares to be global. -/
def Stmt.globalNames : Stmt → List String
  | .global names => names
  | .if _ body orelse => Stmt.globalsIn body ++ Stmt.globalsIn orelse
  | .while _ body orelse => Stmt.globalsIn body ++ Stmt.globalsIn orelse
  | .for _ _ body orelse => Stmt.globalsIn body ++ Stmt.globalsIn orelse
  | .try body handlers orelse final =>
    Stmt.globalsIn body ++ Stmt.globalsInHandlers handlers ++ Stmt.globalsIn orelse ++
      Stmt.globalsIn final
  | _ => []

/-- The names that statements declare to be global. -/
def Stmt.globalsIn : List Stmt → List String
  | [] => []
  | s :: rest => s.globalNames ++ Stmt.globalsIn rest

/-- The names that handlers declare to be global. -/
def Stmt.globalsInHandlers : List (Handled × List Stmt) → List String
  | [] => []
  | (_, body) :: rest => Stmt.globalsIn body ++ Stmt.globalsInHandlers rest

end

/-- The names of parameters. -/
def Params.names : Params → List String
  | .mk plain rest => plain.map (·.1) ++ rest.toList

/-- A function: its name, its parameters, what it does, and the names that belong to each call. -/
structure Func where
  name : String
  params : List (String × Option Expr)
  rest : Option String
  body : List Stmt
  locals : List String
  /-- the names that belong to the program as a whole -/
  globals : List String

/-- The function of a definition. -/
def Func.ofDef (name : String) (params : Params) (body : List Stmt) : Func :=
  let globals := Stmt.globalsIn body
  match params with
  | .mk plain rest =>
    ⟨name, plain, rest, body,
      (params.names ++ Stmt.boundIn body).filter fun x => !globals.contains x, globals⟩

end Snippet.Guest
