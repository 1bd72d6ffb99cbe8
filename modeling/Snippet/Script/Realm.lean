import Snippet.Script.Machine
import Snippet.Decimal.Reading
/-!
What every script finds: the objects that exist before it runs, each at a fixed place.
-/

namespace Snippet.Script

open Snippet.Text

namespace Realm

/-! ## Places -/

/-- The object of global names. -/
def globals : Nat := 0

/-- What all objects inherit from. -/
def objectParent : Nat := 1

/-- What functions inherit from. -/
def functionParent : Nat := 2

/-- What arrays inherit from. -/
def arrayParent : Nat := 3

/-- What texts inherit from. -/
def textParent : Nat := 4

/-- What numbers inherit from. -/
def numberParent : Nat := 5

/-- What truth values inherit from. -/
def boolParent : Nat := 6

/-- What promises inherit from. -/
def promiseParent : Nat := 7

/-- The console. -/
def console : Nat := 8

/-- The object that converts to and from JSON. -/
def json : Nat := 9

/-- What errors of a kind inherit from. -/
def errorParent (k : ErrorKind) : Nat := 10 + ErrorKind.all.idxOf k

/-- The provided functions in the order of their places. -/
def natives : List Native :=
  ConsoleMethod.all.map .console ++
  [.prompt, .toText, .toNumber, .toBool, .parseInt, .stringify, .makeObject, .makeArray] ++
  ErrorKind.all.map .makeError ++
  [.makePromise, .promiseResolve, .promiseReject, .promiseThen, .promiseCatch, .promiseFinally,
    .objectText, .objectValue, .functionText, .arrayText, .arrayJoin, .arrayMap, .arrayPush,
    .textSplit, .textUpper, .primitiveText, .primitiveValue, .errorText]

/-- The place of a provided function. -/
def native (n : Native) : Nat := 17 + natives.idxOf n

/-- The scope of names that a script declares for itself. -/
def topScope : Nat := 0

/-! ## Objects -/

/-- A hidden property under an ordinary name. -/
def hidden (name : String) (v : Value) : Units × Property := (Units.ofString name, .hidden v)

/-- A method of an object. -/
def method (n : Native) : Units × Property := hidden n.name (.object (native n))

/-- A property of a text under an ordinary name. -/
def textProperty (name value : String) : Units × Property :=
  hidden name (.str (Units.ofString value))

/-- The properties that every function has. -/
def functionProperties (name : Units) (expected : Nat) : List (Units × Property) :=
  [(lengthKey, .fixed (.num (.int expected))), (Units.ofString "name", .fixed (.str name))]

/-- The place that objects made by a provided function inherit from. -/
def parentOf : Native → Option Nat
  | .toText => some textParent
  | .toNumber => some numberParent
  | .toBool => some boolParent
  | .makeObject => some objectParent
  | .makeArray => some arrayParent
  | .makeError k => some (errorParent k)
  | .makePromise => some promiseParent
  | _ => none

/-- The object of a provided function. -/
def nativeObject (n : Native) : Obj where
  kind := .native n
  parent := some functionParent
  properties :=
    functionProperties (Units.ofString n.name) n.expected ++
    (parentOf n).toList.map (fun p =>
      (Units.ofString "prototype", ⟨.data (.object p), false, false, false⟩)) ++
    (match n with
      | .makePromise => [method .promiseResolve, method .promiseReject]
      | _ => [])

/-- The object that errors of a kind inherit from. -/
def errorParentObject (k : ErrorKind) : Obj where
  kind := .ordinary
  parent := some (if k = .error then objectParent else errorParent .error)
  properties :=
    [hidden "constructor" (.object (native (.makeError k))), textProperty "name" k.name,
      textProperty "message" ""] ++
    (if k = .error then [method .errorText] else [])

/-- The provided functions that have a global name. -/
def globalFunctions : List Native :=
  [.toText, .toNumber, .toBool, .parseInt, .makeObject, .makeArray, .makePromise] ++
    ErrorKind.all.map .makeError

/-- The object of global names. -/
def globalObject : Obj where
  kind := .ordinary
  parent := some objectParent
  properties :=
    [hidden "globalThis" (.object globals),
      (Units.ofString "undefined", ⟨.data .undefined, false, false, false⟩),
      (Units.ofString "NaN", ⟨.data (.num (.float Decimal.notANumber)), false, false, false⟩),
      (Units.ofString "Infinity", ⟨.data (.num (.float Decimal.infinity)), false, false, false⟩),
      hidden "JSON" (.object json)] ++
    globalFunctions.map method ++
    [(Units.ofString "console", .plain (.object console)), method .prompt]

/-- An ordinary object with methods. -/
def holder (ms : List (Units × Property)) : Obj := ⟨.ordinary, some objectParent, ms⟩

/-- The objects at their places. -/
def objects : List Obj :=
  [globalObject,
    ⟨.ordinary, none, [hidden "constructor" (.object (native .makeObject)), method .objectText,
      method .objectValue]⟩,
    holder [method .functionText],
    ⟨.array #[], some objectParent, [hidden "constructor" (.object (native .makeArray)),
      method .arrayText, method .arrayJoin, method .arrayMap, method .arrayPush]⟩,
    ⟨.boxed (.str []), some objectParent, [hidden "constructor" (.object (native .toText)),
      method .primitiveText, method .primitiveValue, method .textSplit, method .textUpper]⟩,
    ⟨.boxed (.num (.int 0)), some objectParent, [hidden "constructor" (.object (native .toNumber)),
      method .primitiveText, method .primitiveValue]⟩,
    ⟨.boxed (.bool false), some objectParent, [hidden "constructor" (.object (native .toBool)),
      method .primitiveText, method .primitiveValue]⟩,
    holder [hidden "constructor" (.object (native .makePromise)), method .promiseThen,
      method .promiseCatch, method .promiseFinally],
    holder (ConsoleMethod.all.map fun c => method (.console c)),
    holder [method .stringify]] ++
  ErrorKind.all.map errorParentObject ++ natives.map nativeObject

/-- The machine before a script runs. -/
def machine : Machine := ⟨objects.toArray, #[⟨[], none⟩], 0, []⟩

end Realm

end Snippet.Script
