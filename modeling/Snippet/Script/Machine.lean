import Snippet.Script.Value
import Snippet.Script.Play
/-!
The machine that scripts run on, and computations over it.

A `Run` is a play that changes the machine and ends in a value or abruptly. The machine as it was left
is kept either way. Only when the engine itself stops nothing is left, and no computation can catch
that. Where a computation leads back to evaluation it goes through an `Engine`, a record
of what evaluation can do; the record itself is tied together in the module on evaluation.
-/

namespace Snippet.Script

open Snippet.Text

/-- A name in a scope: its value, unless its declaration has not been reached, and whether it may
change. -/
structure Binding where
  value : Option Value
  mutable : Bool
  deriving Inhabited

/-- A scope: its names, and the scope around it. -/
structure Scope where
  bindings : List (String × Binding)
  outer : Option Nat
  deriving Inhabited

/-- The state of a script. -/
structure Machine where
  objects : Array Obj
  scopes : Array Scope
  /-- how many functions of the script are running -/
  depth : Nat
  /-- the arrays that are being joined -/
  joining : List Nat

/-- The object at a place. -/
def Machine.obj (m : Machine) (at_ : Nat) : Obj := m.objects[at_]?.getD default

/-- A value is undefined, or an item or a member of it holds an undefined one at some depth. -/
inductive Machine.HoldsUndefined (m : Machine) : Value → Prop where
  | here : m.HoldsUndefined .undefined
  | item {at_ : Nat} {items : Array (Option Value)} {v : Value}
      (array : (m.obj at_).kind = .array items) (among : some v ∈ items)
      (inside : m.HoldsUndefined v) : m.HoldsUndefined (.object at_)
  | member {at_ : Nat} {key : Units} {p : Property} {v : Value}
      (noArray : ∀ items, (m.obj at_).kind ≠ .array items) (among : key ∈ (m.obj at_).keys)
      (own : (m.obj at_).own? key = some p) (data : p.holding = .data v)
      (inside : m.HoldsUndefined v) : m.HoldsUndefined (.object at_)

/-- A value that has no JSON form, and the machine that held it then. -/
structure Unshowable where
  machine : Machine
  value : Value
  holds : machine.HoldsUndefined value

/-- Why a computation ended abruptly. -/
inductive Abrupt where
  /-- an exception with a value of the script -/
  | thrown (v : Value)
  /-- an exception that the machine raised -/
  | raised (kind : ErrorKind) (message : String)
  /-- too many functions are running; this cannot be caught -/
  | tooDeep

/-- Why the engine itself stopped. Nothing that a script does keeps it going. -/
inductive Stop where
  /-- a value that was to be shown has no JSON form -/
  | unshowable (found : Unshowable)
  /-- the bound on the work was reached -/
  | outOfBudget

/-- A computation. Unless the engine stops in it, it ends in a value or abruptly and leaves a machine. -/
def Run (α : Type) : Type := Machine → Play (Except Stop (Except Abrupt α × Machine))

namespace Run

variable {α β : Type}

/-- A value at once. -/
def pure (a : α) : Run α := fun m => .done (.ok (.ok a, m))

/-- One computation after another. -/
def bind (r : Run α) (f : α → Run β) : Run β := fun m =>
  (r m).bind fun
    | .ok (.ok a, m) => f a m
    | .ok (.error e, m) => .done (.ok (.error e, m))
    | .error stop => .done (.error stop)

instance : Monad Run where
  pure := Run.pure
  bind := Run.bind

/-- An abrupt end. -/
def abrupt (e : Abrupt) : Run α := fun m => .done (.ok (.error e, m))

/-- An exception that the machine raises. -/
def raise (kind : ErrorKind) (message : String) : Run α := abrupt (.raised kind message)

/-- The engine stops. -/
def stop (cause : Stop) : Run α := fun _ => .done (.error cause)

/-- How a computation ends, if the engine does not stop in it. -/
def attempt (r : Run α) : Run (Except Abrupt α) := fun m =>
  (r m).bind fun
    | .ok (ending, m) => .done (.ok (.ok ending, m))
    | .error stop => .done (.error stop)

/-- The machine as it is. -/
def machine : Run Machine := fun m => .done (.ok (.ok m, m))

/-- Something of the machine as it is. -/
def reading (f : Machine → α) : Run α := fun m =>
  let a := f m
  .done (.ok (.ok a, m))

/-- Changes the machine. -/
def change (f : Machine → Machine) : Run Unit := fun m => .done (.ok (.ok (), f m))

/-- Changes the machine and answers with something of it. -/
def changing (f : Machine → α × Machine) : Run α := fun m =>
  let (a, m) := f m
  .done (.ok (.ok a, m))

/-- Puts a text on a channel. -/
def say (channel : Channel) (text : String) : Run Unit := fun m =>
  .say channel text fun _ => .done (.ok (.ok (), m))

/-- Asks for a line of input. -/
def ask (label : String) : Run (Option String) := fun m =>
  .ask label fun line => .done (.ok (.ok line, m))

/-- Repeats a step until it answers; the number bounds how often. -/
def repeating (step : α → Run (α ⊕ β)) : Nat → α → Run β
  | 0, _ => stop .outOfBudget
  | n + 1, a => do
    match ← step a with
    | .inl a => repeating step n a
    | .inr b => return b

end Run

/-- How a statement completes; a value is what the script shows in the end. -/
inductive Completion where
  | normal (v : Option Value)
  | broke (v : Option Value)
  | continued (v : Option Value)
  | returned (v : Value)

/-- What the names and the receiver stand for in a part of a script. -/
structure Frame where
  scope : Nat
  receiver : Value
  strict : Bool

/-- What evaluation can do. -/
structure Engine where
  call : Value → Value → List Value → Run Value
  construct : Value → List Value → Run Value
  eval : Frame → Expr → Run Value
  exec : Frame → Stmt → Run Completion
  /-- how often a loop may go round -/
  rounds : Nat

/-! ## Objects -/

namespace Machine

/-- The machine with another object at a place. -/
def setObj (m : Machine) (at_ : Nat) (o : Obj) : Machine :=
  { m with objects := m.objects.setIfInBounds at_ o }

/-- The machine with a new object, and its place. -/
def alloc (m : Machine) (o : Obj) : Nat × Machine :=
  (m.objects.size, { m with objects := m.objects.push o })

/-- A property of an object or of one that it inherits from; the number bounds how far to look. -/
def find? (m : Machine) : Nat → Nat → Units → Option Property
  | 0, _, _ => none
  | n + 1, at_, key =>
    let o := m.obj at_
    match o.own? key with
    | some p => some p
    | none =>
      match o.parent with
      | some up => m.find? n up key
      | none => none

/-- A property of an object or of one that it inherits from. -/
def lookup (m : Machine) (at_ : Nat) (key : Units) : Option Property :=
  m.find? (m.objects.size + 1) at_ key

/-- The most items that an array makes room for at once. -/
def roomLimit : Nat := 10000000

/-- Items with one stored at an index, with holes up to it where there is a gap. -/
def storeItem (items : Array (Option Value)) (i : Nat) (v : Value) : Array (Option Value) :=
  if i < items.size then items.setIfInBounds i (some v)
  else (items ++ Array.replicate (min i roomLimit - items.size) none).push (some v)

/-- The machine with a property of an object, made or stored. -/
def put (m : Machine) (at_ : Nat) (key : Units) (p : Property) : Machine :=
  let o := m.obj at_
  match o.kind, index? key, p.holding with
  | .array _, some i, .data v =>
    { m with objects := m.objects.modify at_ fun o =>
        match o with
        | ⟨.array items, parent, properties⟩ => ⟨.array (storeItem items i v), parent, properties⟩
        | o => o }
  | _, _, _ => m.setObj at_ (o.putNamed key p)

/-- The machine with an array cut or stretched to a length. -/
def resize (m : Machine) (at_ : Nat) (length : Nat) : Machine :=
  let o := m.obj at_
  match o.kind with
  | .array items =>
    let room := Array.replicate (min length roomLimit - items.size) none
    m.setObj at_ { o with kind := .array (items.take length ++ room) }
  | _ => m

/-- The machine without a property of an object. -/
def remove (m : Machine) (at_ : Nat) (key : Units) : Machine :=
  let o := m.obj at_
  match o.kind, index? key with
  | .array items, some i => m.setObj at_ { o with kind := .array (items.setIfInBounds i none) }
  | _, _ => m.setObj at_ { o with properties := o.properties.filter fun p => p.1 != key }

/-! ## Scopes -/

/-- The machine with a new scope, and its place. -/
def openScope (m : Machine) (bindings : List (String × Binding)) (outer : Option Nat) :
    Nat × Machine :=
  (m.scopes.size, { m with scopes := m.scopes.push ⟨bindings, outer⟩ })

/-- The scope in which a name is found, and what it is bound to; the number bounds how far out to
look. -/
def resolveFrom (m : Machine) (x : String) : Nat → Nat → Option (Nat × Binding)
  | 0, _ => none
  | n + 1, at_ =>
    match m.scopes[at_]? with
    | none => none
    | some s =>
      match s.bindings.find? fun b => b.1 == x with
      | some (_, b) => some (at_, b)
      | none =>
        match s.outer with
        | some outer => m.resolveFrom x n outer
        | none => none

/-- The scope in which a name is found, and what it is bound to. -/
def resolve (m : Machine) (at_ : Nat) (x : String) : Option (Nat × Binding) :=
  m.resolveFrom x (m.scopes.size + 1) at_

/-- The machine with a name of a scope bound to a value. -/
def bindName (m : Machine) (at_ : Nat) (x : String) (v : Value) : Machine :=
  { m with scopes := m.scopes.modify at_ fun s =>
      { s with bindings := s.bindings.map fun b =>
          if b.1 == x then (x, { b.2 with value := some v }) else b } }

/-- The machine with a name added to a scope. -/
def declare (m : Machine) (at_ : Nat) (x : String) (b : Binding) : Machine :=
  { m with scopes := m.scopes.modify at_ fun s =>
      { s with bindings := (x, b) :: s.bindings.filter fun c => c.1 != x } }

end Machine

/-- Makes an object. -/
def Run.alloc (o : Obj) : Run Nat := .changing fun m => m.alloc o

/-- Makes a scope. -/
def Run.openScope (bindings : List (String × Binding)) (outer : Nat) : Run Nat :=
  .changing fun m => m.openScope bindings (some outer)

end Snippet.Script
