import Snippet.Guest.Ast
import Snippet.Guest.Classes
import Snippet.Guest.Play
/-!
The values of guest programs, the machine that they live on, and computations over it.

Plain values carry their contents; what can change is an object of the machine and goes by its place.
A `Run` is a play that changes the machine and ends in a value or abruptly; the machine as it was left
is kept either way.
-/

namespace Snippet.Guest

open Snippet.Text

/-- The values of a program. -/
inductive Value where
  | none
  | ellipsis
  | bool (b : Bool)
  | int (n : Int)
  | float (x : Float)
  | str (p : Points)
  | bytes (p : Points)
  | tuple (items : List Value)
  | range (from_ until_ step : Int)
  /-- a class that every program has -/
  | cls (name : String)
  /-- a function that every program has -/
  | native (name : String)
  /-- the function that asks for input in the request of that number -/
  | asker (serial : Nat)
  /-- a function with its first argument -/
  | bound (self f : Value)
  | ref (at_ : Nat)
  deriving Inhabited

/-- Something to write to or to read from. -/
inductive Stream where
  /-- the captured output of the request of that number -/
  | capture (serial : Nat)
  /-- the input lines of the request of that number -/
  | host (serial : Nat)
  /-- nothing, to read from or to write to -/
  | null (readable : Bool)
  /-- a text that is kept, and how much of it has been passed over -/
  | buffer (p : Points) (at_ : Nat)
  /-- the captured output of a request, or a text that was kept, once it has been closed -/
  | closed

/-- Has the stream been closed? -/
def Stream.isClosed : Stream → Bool
  | .closed => true
  | _ => false

/-- What is left of something that is gone through item by item. -/
inductive Cursor where
  /-- a list from a place on -/
  | list (at_ : Nat) (next : Nat)
  | items (rest : List Value)
  /-- what a view shows of a dictionary, which had that size at first -/
  | entries (dict : Nat) (kind : String) (size next : Nat)
  | range (next until_ step : Int)
  /-- the items of another cursor with their numbers -/
  | counted (next : Int) (source : Value)
  /-- one item of each cursor at a time -/
  | zipped (sources : List Value)
  /-- what a function makes of one item of each cursor -/
  | mapped (f : Value) (sources : List Value)
  /-- the items of which a function, or the item itself, says that they are wanted -/
  | filtered (f source : Value)

/-- Where the names of a part of a program are looked up. -/
structure Frame where
  /-- the scope in which names are bound -/
  scope : Nat
  /-- the names that belong to the scope, if it is that of a function -/
  locals : Option (List String)
  /-- the scopes of the functions around it, with their names, the innermost first -/
  outer : List (Nat × List String)
  globals : Nat
  /-- the class whose body or method runs -/
  owner : Option Nat
  /-- the first argument of the function that runs -/
  receiver : Option Value
  /-- what the names of functions and classes defined here begin with -/
  path : String

/-- Attributes in order. -/
abbrev Attrs := List (String × Value)

/-- The objects of the machine. -/
inductive Obj where
  | list (items : Array Value)
  | dict (items : List (Value × Value))
  /-- the keys, the values or the items of a dictionary -/
  | view (dict : Nat) (kind : String)
  | func (f : Func) (fallbacks : List (Option Value)) (frame : Frame)
  | klass (name : String) (bases : List Value) (attrs : Attrs)
  | instance (cls : Value) (attrs : Attrs)
  /-- an exception: its arguments, what classes that every program has keep with it, and what the program has
  added -/
  | exception (cls : Value) (args : List Value) (fields attrs : Attrs)
  | module (name : String) (attrs : Attrs)
  | stream (s : Stream)
  /-- something that is gone through, with the name of its class -/
  | cursor (kind : String) (c : Cursor)
  deriving Inhabited

/-- Where a program writes to and reads from unless it says otherwise, and the function by which it asks
for input. Each of the three may be missing. -/
structure Surroundings where
  output : Option Value
  input : Option Value
  ask : Option Value
  deriving Inhabited

/-- The state of an interpreter. It outlives a single program. -/
structure Machine where
  surroundings : Surroundings
  objects : Array Obj
  scopes : Array Attrs
  modules : List (String × Nat)
  /-- how many functions are running -/
  depth : Nat
  /-- the number of the request that runs -/
  serial : Nat
  /-- the captured output of that request has been closed -/
  closed : Bool
  /-- the exceptions that are being handled, the latest first -/
  handling : List Value

instance : Inhabited Machine := ⟨⟨default, #[], #[], [], 0, 0, false, []⟩⟩

/-- Why a computation ended abruptly. -/
inductive Abrupt where
  | raised (exception : Value)
  | killed (code : Nat)
  /-- nothing is said of what comes next: a bound on the work was reached, or the program goes beyond the
  language that is modelled -/
  | beyond

/-- A computation. -/
def Run (α : Type) : Type := Machine → Play (Except Abrupt α × Machine)

/-- What a view of a kind shows of an item of a dictionary. -/
def viewed (kind : String) (item : Value × Value) : Value :=
  match kind with
  | "keys" => item.1
  | "values" => item.2
  | _ => .tuple [item.1, item.2]

namespace Machine

/-- The object at a place. -/
def obj (m : Machine) (at_ : Nat) : Obj := m.objects[at_]?.getD default

/-- The machine with another object at a place. -/
def setObj (m : Machine) (at_ : Nat) (o : Obj) : Machine :=
  { m with objects := m.objects.setIfInBounds at_ o }

/-- The machine with a new object, and its place. -/
def alloc (m : Machine) (o : Obj) : Nat × Machine :=
  (m.objects.size, { m with objects := m.objects.push o })

/-- Attributes with one of them set. -/
def withAttr (attrs : Attrs) (x : String) (v : Value) : Attrs :=
  if attrs.any fun a => a.1 == x then attrs.map fun a => if a.1 == x then (x, v) else a
  else attrs ++ [(x, v)]

/-! ## Exceptions -/

/-- What a class that every program has keeps of the arguments of an exception, by its rules. -/
def keptBy (rule : String) (args : List Value) : Attrs :=
  match rule, args with
  | "SystemExit", [] => []
  | "SystemExit", [v] => [("code", v)]
  | "SystemExit", vs => [("code", .tuple vs)]
  | "StopIteration", vs => [("value", vs.head?.getD .none)]
  | "OSError", a :: b :: rest => [("errno", a), ("strerror", b), ("filename", rest.head?.getD .none)]
  | "SyntaxError", v :: _ => [("msg", v)]
  | "ImportError", [v] => [("msg", v)]
  | "ImportError", _ => [("msg", .none)]
  | _, _ => []

/-- Something that is kept with an exception. -/
def field? (m : Machine) (exception : Value) (x : String) : Option Value :=
  match exception with
  | .ref at_ =>
    match m.obj at_ with
    | .exception _ _ fields _ => (fields.find? fun a => a.1 == x).map (·.2)
    | _ => none
  | _ => none

/-- The machine with something kept with an exception. -/
def setField (m : Machine) (exception : Value) (x : String) (v : Value) : Machine :=
  match exception with
  | .ref at_ =>
    match m.obj at_ with
    | .exception c args fields attrs => m.setObj at_ (.exception c args (withAttr fields x v) attrs)
    | _ => m
  | _ => m

/-- Are two values the same object? -/
def sameObject : Value → Value → Bool
  | .ref a, .ref b => a == b
  | _, _ => false

/-- The machine where an exception does not come up in the course of another one any more, directly or through
others; the number bounds through how many. -/
def withoutContext (m : Machine) (exception : Value) : Nat → Value → Machine
  | 0, _ => m
  | n + 1, other =>
    match m.field? other "__context__" with
    | some earlier =>
      if sameObject earlier exception then m.setField other "__context__" .none
      else m.withoutContext exception n earlier
    | none => m

/-- The machine where an exception has come up while another one is handled, if one is. -/
def inContext (m : Machine) (exception : Value) : Machine :=
  match m.handling.head? with
  | some handled =>
    if sameObject handled exception then m
    else
      (m.withoutContext exception m.objects.size handled).setField exception "__context__" handled
  | none => m

end Machine

namespace Run

variable {α β : Type}

/-- A value at once. -/
def pure (a : α) : Run α := fun m => .done (.ok a, m)

/-- One computation after another. -/
def bind (r : Run α) (f : α → Run β) : Run β := fun m =>
  (r m).bind fun
    | (.ok a, m) => f a m
    | (.error e, m) => .done (.error e, m)

instance : Monad Run where
  pure := Run.pure
  bind := Run.bind

/-- An abrupt end. -/
def abrupt (e : Abrupt) : Run α := fun m => .done (.error e, m)

/-- How a computation ends. -/
def attempt (r : Run α) : Run (Except Abrupt α) := fun m =>
  (r m).bind fun (ending, m) => .done (.ok ending, m)

/-- Something of the machine as it is. -/
def reading (f : Machine → α) : Run α := fun m =>
  let a := f m
  .done (.ok a, m)

/-- Changes the machine. -/
def change (f : Machine → Machine) : Run Unit := fun m => .done (.ok (), f m)

/-- Changes the machine and answers with something of it. -/
def changing (f : Machine → α × Machine) : Run α := fun m =>
  let (a, m) := f m
  .done (.ok a, m)

/-- Makes an object. -/
def alloc (o : Obj) : Run Value := do
  return .ref (← changing fun m => m.alloc o)

/-- The object at a place. -/
def obj (at_ : Nat) : Run Obj := reading fun m => m.obj at_

/-- An exception comes up. -/
def throw (exception : Value) : Run α := do
  change fun m => m.inContext exception
  abrupt (.raised exception)

/-- An exception that the machine raises, with its arguments. -/
def raiseWith (kind : String) (args : List Value) : Run α := do
  let rule := ruleOf fun x => nameBelow x classDepth kind
  throw (← alloc (.exception (.cls kind) args (Machine.keptBy rule args) []))

/-- An exception that the machine raises, with a message. -/
def raise (kind : String) (message : String) : Run α :=
  raiseWith kind [.str (Points.ofString message)]

/-- Puts a text into the output. -/
def write (p : Points) : Run Unit := fun m => .write p fun _ => .done (.ok (), m)

/-- The output is cut off: what is put into it from here on is lost. -/
def cut : Run Unit := fun m => .cut fun _ => .done (.ok (), m)

/-- What has been put into the output. -/
def lookBack : Run Points := fun m => .lookBack fun p => .done (.ok p, m)

/-- Asks for input. -/
def ask (q : Question) : Run Answer := fun m => .ask q fun a => .done (.ok a, m)

/-- Repeats a step until it answers; the number bounds how often. -/
def repeating (step : α → Run (α ⊕ β)) : Nat → α → Run β
  | 0, _ => abrupt .beyond
  | n + 1, a => do
    match ← step a with
    | .inl a => repeating step n a
    | .inr b => return b

end Run

/-- How a statement completes. -/
inductive Completion where
  | normal
  | broke
  | continued
  | returned (v : Value)

/-- What evaluation can do. -/
structure Engine where
  eval : Frame → Expr → Run Value
  exec : Frame → List Stmt → Run Completion
  /-- a call with arguments in order and by name -/
  call : Value → List Value → List (String × Value) → Run Value
  /-- the text of a value -/
  text : Value → Run Points
  /-- the text of a value as it is written in a program -/
  shown : Value → Run Points
  /-- the next item at a cursor -/
  next : Value → Run (Option Value)
  /-- how often a loop may go round -/
  rounds : Nat

/-! ## Fixed places -/

/-- The place of the module of the interpreter itself. -/
def sysPlace : Nat := 0

/-- The place of the module of names that every program has. -/
def builtinsPlace : Nat := 1

/-- The place of an output that leads nowhere. -/
def nowherePlace : Nat := 2

/-- The place of an input without lines. -/
def emptyPlace : Nat := 3

/-- The place of the output for complaints. -/
def complaintsPlace : Nat := 4

/-! ## Classes -/

namespace Machine

/-- A class and all above it, in the order in which attributes are looked up; the number bounds how
far. -/
def lineage (m : Machine) : Nat → Value → List Value
  | 0, _ => []
  | n + 1, c =>
    match c with
    | .cls name =>
      c :: (parentNames name).flatMap fun up => m.lineage n (.cls up)
    | .ref at_ =>
      match m.obj at_ with
      | .klass _ bases _ => c :: bases.flatMap (m.lineage n)
      | _ => []
    | _ => []

/-- Are two values the same class? -/
def sameClass : Value → Value → Bool
  | .cls a, .cls b => a == b
  | .ref a, .ref b => a == b
  | _, _ => false

/-- Is a class the other one or below it? -/
def below (m : Machine) (c target : Value) : Bool :=
  (m.lineage classDepth c).any (sameClass target)

/-- Is the value a class? -/
def isClass (m : Machine) : Value → Bool
  | .cls _ => true
  | .ref at_ =>
    match m.obj at_ with
    | .klass .. => true
    | _ => false
  | _ => false

/-- Is the value a class of exceptions? -/
def isExceptionClass (m : Machine) (v : Value) : Bool :=
  m.isClass v && m.below v (.cls "BaseException")

/-- The name of a class. -/
def className (m : Machine) : Value → String
  | .cls name => name
  | .ref at_ =>
    match m.obj at_ with
    | .klass name _ _ => name
    | _ => ""
  | _ => ""

/-- The class of a value. -/
def classOf (m : Machine) : Value → Value
  | .none => .cls "NoneType"
  | .ellipsis => .cls "ellipsis"
  | .bool _ => .cls "bool"
  | .int _ => .cls "int"
  | .float _ => .cls "float"
  | .str _ => .cls "str"
  | .bytes _ => .cls "bytes"
  | .tuple _ => .cls "tuple"
  | .range .. => .cls "range"
  | .cls _ => .cls "type"
  | .native _ => .cls "builtin_function_or_method"
  | .asker _ => .cls "function"
  | .bound _ (.ref _) => .cls "method"
  | .bound _ (.bound _ _) => .cls "super"
  | .bound _ _ => .cls "builtin_function_or_method"
  | .ref at_ =>
    match m.obj at_ with
    | .list _ => .cls "list"
    | .dict _ => .cls "dict"
    | .view _ kind => .cls ("dict_" ++ kind)
    | .func .. => .cls "function"
    | .klass .. => .cls "type"
    | .instance c _ => c
    | .exception c _ _ _ => c
    | .module .. => .cls "module"
    | .stream (.capture _) => .cls "_io.StringIO"
    | .stream (.buffer _ _) => .cls "_io.StringIO"
    | .stream .closed => .cls "_io.StringIO"
    | .stream (.host _) => .cls "_HostStdin"
    | .stream (.null _) => .cls "_io.TextIOWrapper"
    | .cursor kind _ => .cls kind

/-- The name of the class of a value. -/
def typeName (m : Machine) (v : Value) : String := m.className (m.classOf v)

/-- An attribute that a class has itself. -/
def ownAttr? (m : Machine) (c : Value) (x : String) : Option Value :=
  match c with
  | .ref at_ =>
    match m.obj at_ with
    | .klass _ _ attrs => (attrs.find? fun a => a.1 == x).map (·.2)
    | _ => none
  | _ => none

/-- An attribute of a class or of one above it. -/
def classAttr? (m : Machine) (c : Value) (x : String) : Option Value :=
  (m.lineage classDepth c).findSome? fun c => m.ownAttr? c x

/-- A method that the class of an object defines in the program. -/
def method? (m : Machine) (v : Value) (x : String) : Option Value :=
  match v with
  | .ref at_ =>
    match m.obj at_ with
    | .instance c _ => m.classAttr? c x
    | .exception c _ _ _ => m.classAttr? c x
    | _ => none
  | _ => none

/-! ## Scopes -/

/-- The machine with a new scope, and its place. -/
def openScope (m : Machine) (names : Attrs) : Nat × Machine :=
  (m.scopes.size, { m with scopes := m.scopes.push names })

/-- What a name of a scope is bound to. -/
def named? (m : Machine) (scope : Nat) (x : String) : Option Value :=
  (m.scopes[scope]?).bind fun names => (names.find? fun b => b.1 == x).map (·.2)

/-- The machine with a name of a scope bound. -/
def bindName (m : Machine) (scope : Nat) (x : String) (v : Value) : Machine :=
  { m with scopes := m.scopes.modify scope fun names => withAttr names x v }

/-- The machine without a name of a scope. -/
def unbind (m : Machine) (scope : Nat) (x : String) : Machine :=
  { m with scopes := m.scopes.modify scope fun names => names.filter fun b => b.1 != x }

/-! ## Modules -/

/-- The attributes of a module, in order; none of a value that is no module. Those of the surroundings come
last. -/
def moduleAttrs (m : Machine) (at_ : Nat) : Attrs :=
  match m.obj at_ with
  | .module _ attrs =>
    let own (x : String) (v : Option Value) : Attrs := (v.map fun v => (x, v)).toList
    attrs ++
      if at_ == sysPlace then own "stdout" m.surroundings.output ++ own "stdin" m.surroundings.input
      else if at_ == builtinsPlace then own "input" m.surroundings.ask
      else []
  | _ => []

/-- An attribute of a module. -/
def moduleAttr? (m : Machine) (at_ : Nat) (x : String) : Option Value :=
  ((m.moduleAttrs at_).find? fun a => a.1 == x).map (·.2)

/-- The machine with an attribute of a module set, or taken away. -/
def setModuleAttr (m : Machine) (at_ : Nat) (x : String) (v : Option Value) : Machine :=
  if at_ == sysPlace && x == "stdout" then
    { m with surroundings := { m.surroundings with output := v } }
  else if at_ == sysPlace && x == "stdin" then
    { m with surroundings := { m.surroundings with input := v } }
  else if at_ == builtinsPlace && x == "input" then
    { m with surroundings := { m.surroundings with ask := v } }
  else
    match m.obj at_, v with
    | .module name attrs, some v => m.setObj at_ (.module name (withAttr attrs x v))
    | .module name attrs, none => m.setObj at_ (.module name (attrs.filter fun a => a.1 != x))
    | _, _ => m

end Machine

end Snippet.Guest
