import Snippet.Script.Ast
import Snippet.Capture
/-!
Values and objects of scripts.

Objects live in the machine and are named by their place there. A number is held as a whole number of
32 bits where it arose as one; the two kinds are told apart only when it is reported.
-/

namespace Snippet.Script

open Snippet.Text

/-- The kinds of errors. -/
inductive ErrorKind where
  | error
  | evalError
  | rangeError
  | referenceError
  | syntaxError
  | typeError
  | uriError
  deriving Repr, DecidableEq

namespace ErrorKind

/-- All kinds. -/
def all : List ErrorKind :=
  [.error, .evalError, .rangeError, .referenceError, .syntaxError, .typeError, .uriError]

/-- The name under which scripts know a kind. -/
def name : ErrorKind → String
  | .error => "Error"
  | .evalError => "EvalError"
  | .rangeError => "RangeError"
  | .referenceError => "ReferenceError"
  | .syntaxError => "SyntaxError"
  | .typeError => "TypeError"
  | .uriError => "URIError"

/-- The name under which an error that nothing caught is reported. -/
def reported : ErrorKind → String
  | .uriError => "UriError"
  | k => k.name

end ErrorKind

/-- The ways to write to the console. -/
inductive ConsoleMethod where
  | log
  | info
  | debug
  | error
  | warn
  deriving Repr, DecidableEq

namespace ConsoleMethod

/-- All ways. -/
def all : List ConsoleMethod := [.log, .info, .debug, .error, .warn]

/-- The name of the method. -/
def name : ConsoleMethod → String
  | .log => "log"
  | .info => "info"
  | .debug => "debug"
  | .error => "error"
  | .warn => "warn"

/-- The channel it writes to. -/
def channel : ConsoleMethod → Channel
  | .log | .info | .debug => .info
  | .error => .error
  | .warn => .warning

end ConsoleMethod

/-- Functions that the machine provides. -/
inductive Native where
  | console (method : ConsoleMethod)
  | prompt
  | toText
  | toNumber
  | toBool
  | parseInt
  | stringify
  | makeObject
  | makeArray
  | makeError (kind : ErrorKind)
  | makePromise
  | promiseResolve
  | promiseReject
  | promiseThen
  | promiseCatch
  | promiseFinally
  /-- settles the promise at a place, by a value or by a reason -/
  | settle (at_ : Nat) (fulfil : Bool)
  | objectText
  | objectValue
  | functionText
  | arrayText
  | arrayJoin
  | arrayMap
  | arrayPush
  | textSplit
  | textUpper
  | primitiveText
  | primitiveValue
  | errorText
  deriving Repr, DecidableEq

namespace Native

/-- The name of a provided function. -/
def name : Native → String
  | console method => method.name
  | prompt => "prompt"
  | toText => "String"
  | toNumber => "Number"
  | toBool => "Boolean"
  | parseInt => "parseInt"
  | stringify => "stringify"
  | makeObject => "Object"
  | makeArray => "Array"
  | makeError kind => kind.name
  | makePromise => "Promise"
  | promiseResolve => "resolve"
  | promiseReject => "reject"
  | promiseThen => "then"
  | promiseCatch => "catch"
  | promiseFinally => "finally"
  | settle .. => ""
  | objectText => "toString"
  | objectValue => "valueOf"
  | functionText => "toString"
  | arrayText => "toString"
  | arrayJoin => "join"
  | arrayMap => "map"
  | arrayPush => "push"
  | textSplit => "split"
  | textUpper => "toUpperCase"
  | primitiveText => "toString"
  | primitiveValue => "valueOf"
  | errorText => "toString"

/-- How many arguments a provided function expects. -/
def expected : Native → Nat
  | console _ => 0
  | parseInt => 2
  | stringify => 3
  | promiseThen => 2
  | textSplit => 2
  | prompt | toText | toNumber | toBool | makeObject | makeArray | makeError _ | makePromise
  | promiseResolve | promiseReject | promiseCatch | promiseFinally | settle .. | arrayJoin
  | arrayMap | arrayPush => 1
  | _ => 0

/-- Can the function make objects? -/
def isConstructor : Native → Bool
  | toText | toNumber | toBool | makeObject | makeArray | makeError _ | makePromise => true
  | _ => false

end Native

/-- Values of scripts. -/
inductive Value where
  | undefined
  | null
  | bool (b : Bool)
  | num (n : Json.Num)
  | str (s : Units)
  /-- the object at a place of the machine -/
  | object (at_ : Nat)
  deriving Inhabited

/-- What a property holds. -/
inductive Holding where
  | data (v : Value)
  | accessor (getter setter : Option Value)
  deriving Inhabited

/-- A property of an object. -/
structure Property where
  holding : Holding
  writable : Bool
  enumerable : Bool
  configurable : Bool
  deriving Inhabited

/-- A property that a script makes by assigning to it. -/
def Property.plain (v : Value) : Property := ⟨.data v, true, true, true⟩

/-- A property that is passed over when properties are listed. -/
def Property.hidden (v : Value) : Property := ⟨.data v, true, false, true⟩

/-- A property that scripts can read only. -/
def Property.fixed (v : Value) : Property := ⟨.data v, false, false, true⟩

/-- How far a promise has come. -/
inductive PromiseState where
  | pending
  | fulfilled (v : Value)
  | rejected (v : Value)
  deriving Inhabited

/-- What is special about an object. -/
inductive ObjectKind where
  | ordinary
  /-- items by index; none where there is a hole -/
  | array (items : Array (Option Value))
  /-- a function of the script, the scope it stands in, and the receiver an arrow keeps -/
  | function (f : Func) (scope : Nat) (receiver : Value) (strict : Bool)
  | native (n : Native)
  | error (kind : ErrorKind)
  /-- an object around a value that is none -/
  | boxed (v : Value)
  | promise (state : PromiseState)

/-- An object. -/
structure Obj where
  kind : ObjectKind
  /-- the object that properties are inherited from -/
  parent : Option Nat
  /-- its properties in the order in which they were made; those of items left out -/
  properties : List (Units × Property)

instance : Inhabited Obj := ⟨⟨.ordinary, none, []⟩⟩

/-- The index that a property name spells, if it spells one. -/
def index? (key : Units) : Option Nat :=
  if key.isEmpty || key.length > 10 || !key.all (fun n => 0x30 ≤ n && n ≤ 0x39) ||
      (key.head? == some 0x30 && key.length > 1) then none
  else
    let n := key.foldl (fun n d => 10 * n + (d - 0x30)) 0
    if n < 0xFFFFFFFF then some n else none

/-- The property name of an index. -/
def indexKey (i : Nat) : Units := Units.ofString (Decimal.natText i)

/-- The property name under which an array tells its length. -/
def lengthKey : Units := Units.ofString "length"

namespace Obj

/-- An object's property among those that are not items. -/
def named? (o : Obj) (key : Units) : Option Property :=
  (o.properties.find? fun p => p.1 == key).map (·.2)

/-- An object's own property. -/
def own? (o : Obj) (key : Units) : Option Property :=
  match o.kind with
  | .array items =>
    if key == lengthKey then some ⟨.data (.num (.int items.size)), true, false, false⟩
    else match index? key with
      | some i => (items[i]?.join).map .plain
      | none => o.named? key
  | .boxed (.str s) =>
    if key == lengthKey then some ⟨.data (.num (.int s.length)), false, false, false⟩
    else match (index? key).bind (s[·]?) with
      | some n => some ⟨.data (.str [n]), false, true, false⟩
      | none => o.named? key
  | _ => o.named? key

/-- The object with a property among those that are not items. -/
def putNamed (o : Obj) (key : Units) (p : Property) : Obj :=
  if o.properties.any fun q => q.1 == key then
    { o with properties := o.properties.map fun q => if q.1 == key then (key, p) else q }
  else { o with properties := o.properties ++ [(key, p)] }

/-- The indices among the names of properties, in order. -/
def indices (o : Obj) : List Nat :=
  (o.properties.filterMap fun p => index? p.1).mergeSort (· ≤ ·)

/-- The names of all own properties: indices in order, then the others as they were made. -/
def keys (o : Obj) : List Units :=
  let names := (o.properties.filter fun p => (index? p.1).isNone).map (·.1)
  match o.kind with
  | .array items =>
    ((List.range items.size).filter fun i => (items[i]?.join).isSome).map indexKey ++
      lengthKey :: names
  | _ => o.indices.map indexKey ++ names

end Obj

end Snippet.Script
