import Snippet.Script.Show
import Snippet.Script.Stringify
import Snippet.Text.Case
/-!
The functions that the machine provides.

Writing to the console and asking for input are the only ones that are seen outside. Their arguments are
converted first, whatever that does; the host is called once after that.
-/

namespace Snippet.Script

open Snippet.Text

namespace Engine

/-- An argument; undefined where it is missing. -/
def arg (args : List Value) (i : Nat) : Value := args[i]?.getD .undefined

/-- Arguments as they are written to a channel. -/
def consoleText (E : Engine) (method : ConsoleMethod) (args : List Value) : Run String := do
  let parts ← args.mapM fun v =>
    match method.channel with
    | .info => E.rendered v
    | _ => E.shownText v
  return join " " parts

/-- Asks for a line under a label. -/
def promptCall (E : Engine) (args : List Value) : Run Value := do
  let label ← match args with
    | v :: _ => if v.isAbsent then pure "" else E.shownText v
    | [] => pure ""
  match ← Run.ask label with
  | some line => return Value.text line
  | none => return .null

/-! ## Making objects -/

/-- A new array. -/
def newArray (items : List Value) : Run Value := do
  let at_ ← Run.alloc ⟨.array (items.map some).toArray, some Realm.arrayParent, []⟩
  return .object at_

/-- A new object without properties. -/
def newObject : Run Value := do
  return .object (← Run.alloc ⟨.ordinary, some Realm.objectParent, []⟩)

/-- A new error with a message, if there is one. -/
def newError (kind : ErrorKind) (message : Option Units) : Run Value := do
  let properties := message.toList.map fun s => (Units.ofString "message", Property.hidden (.str s))
  return .object (← Run.alloc ⟨.error kind, some (Realm.errorParent kind), properties⟩)

/-- An object around a value. -/
def newBoxed (v : Value) (parent : Nat) : Run Value := do
  return .object (← Run.alloc ⟨.boxed v, some parent, []⟩)

/-- The error of a call. -/
def errorCall (E : Engine) (kind : ErrorKind) (args : List Value) : Run Value := do
  let message ← match arg args 0 with
    | .undefined => pure none
    | v => pure (some (← E.text v))
  let e ← newError kind message
  match arg args 1, e with
  | .object o, .object at_ =>
    let cause := Units.ofString "cause"
    let m ← Run.machine
    if (m.lookup o cause).isSome then
      let c ← E.get (.object o) cause
      Run.change fun m => m.put at_ cause (.hidden c)
  | _, _ => pure ()
  return e

/-- The array of a call: of a length, or of items. -/
def arrayCall (args : List Value) : Run Value := do
  match args with
  | [.num x] =>
    let n := asFloat x
    if Decimal.isWhole n && n >= 0.0 && n < 4294967296.0 then
      let holes := Array.replicate (min Machine.roomLimit (Decimal.truncate n).toNat) none
      return .object (← Run.alloc ⟨.array holes, some Realm.arrayParent, []⟩)
    else Run.raise .rangeError "invalid array length"
  | items => newArray items

/-! ## Numbers -/

/-- The value of a digit in bases up to 36. -/
def digitIn? (base : Nat) (c : Char) : Option Nat :=
  let n? :=
    if c.isDigit then some (c.toNat - '0'.toNat)
    else if 'a' ≤ c.toLower ∧ c.toLower ≤ 'z' then some (c.toLower.toNat - 'a'.toNat + 10)
    else none
  n?.filter (· < base)

/-- The whole number that a text begins with, in a base. -/
def parseIntCall (E : Engine) (args : List Value) : Run Value := do
  if args.isEmpty then return .double Decimal.notANumber
  let s := unitChars ((← E.text (arg args 0)).dropWhile isBlankUnit)
  let (negative, s) := match s with
    | '-' :: r => (true, r)
    | '+' :: r => (false, r)
    | r => (false, r)
  let radix := floatTo32 (← E.number (arg args 1))
  let hex := match s with
    | '0' :: x :: _ => x == 'x' || x == 'X'
    | _ => false
  let (base, s) :=
    if (radix == 0 || radix == 16) && hex then (16, s.drop 2)
    else if radix == 0 then (10, s)
    else (radix.toNat, s)
  if radix != 0 && (radix < 2 || 36 < radix) then return .double Decimal.notANumber
  let digits := (s.map (digitIn? base)).takeWhile (·.isSome) |>.filterMap id
  if digits.isEmpty then return .double Decimal.notANumber
  let x := Decimal.ofNat (digits.foldl (fun n d => base * n + d) 0)
  return .double (if negative then -x else x)

/-! ## Texts -/

/-- The pieces of a text between separators; the number bounds the work. -/
def splitUnits (separator : Units) : Nat → Units → Units → List Units
  | 0, piece, _ => [piece.reverse]
  | _, piece, [] => [piece.reverse]
  | n + 1, piece, c :: rest =>
    if separator.isPrefixOf (c :: rest) then
      piece.reverse :: splitUnits separator n [] ((c :: rest).drop separator.length)
    else splitUnits separator n (c :: piece) rest

/-- The text that a method of texts is called on. -/
def textReceiver (E : Engine) (receiver : Value) : Run Units := do
  if receiver.isAbsent then Run.raise .typeError noObject else E.text receiver

/-- A text cut at separators. -/
def splitCall (E : Engine) (receiver : Value) (args : List Value) : Run Value := do
  let s ← E.textReceiver receiver
  let limit ← match arg args 1 with
    | .undefined => pure 0xFFFFFFFF
    | v => do pure ((floatTo32 (← E.number v)) % 0x100000000).toNat
  let pieces ← match arg args 0 with
    | .undefined => pure [s]
    | v => do
      let separator ← E.text v
      if separator.isEmpty then pure (s.map fun n => [n])
      else pure (splitUnits separator (s.length + 1) [] s)
  newArray ((pieces.take limit).map .str)

/-- A text in upper case. -/
def upperCall (E : Engine) (receiver : Value) : Run Value := do
  let s ← E.textReceiver receiver
  return .str (s.toPoints.flatMap fun n =>
    if Points.isSurrogate n then [n] else Units.ofChars (upperChar (Char.ofNat n)))

/-! ## Arrays -/

/-- The items of an array as text, with a separator between each two. An array inside itself has no
text. -/
def joinCall (E : Engine) (receiver separator : Value) : Run Value := do
  if receiver.isAbsent then Run.raise .typeError noObject
  let place := (placeOf receiver).getD 0
  let m ← Run.machine
  if m.joining.contains place then return .str []
  else
    let joined ← Run.attempt (do
      Run.change fun m => { m with joining := place :: m.joining }
      let length ← E.lengthOf receiver
      let separator ← match separator with
        | .undefined => pure (Units.ofString ",")
        | v => E.text v
      let parts ← (List.range length).mapM fun i => do
        let v ← E.get receiver (indexKey i)
        if v.isAbsent then pure [] else E.text v
      return Value.str (separator.intercalate parts))
    Run.change fun m => { m with joining := m.joining.erase place }
    match joined with
    | .ok v => return v
    | .error e => Run.abrupt e

/-- What a function makes of each item. -/
def mapCall (E : Engine) (receiver f own : Value) : Run Value := do
  if receiver.isAbsent then Run.raise .typeError noObject
  let length ← E.lengthOf receiver
  if !(← Run.machine).isCallable f then
    Run.raise .typeError "Array.prototype.map: Callbackfn is not callable"
  let items ← (List.range length).mapM fun i => do
    let m ← Run.machine
    match placeOf receiver with
    | some at_ =>
      if (m.lookup at_ (indexKey i)).isSome then
        let v ← E.get receiver (indexKey i)
        return some (← E.call f own [v, Value.whole i, receiver])
      else return none
    | none => return none
  return .object (← Run.alloc ⟨.array items.toArray, some Realm.arrayParent, []⟩)

/-- Items added at the end; the answer is the new length. -/
def pushCall (E : Engine) (receiver : Value) (args : List Value) : Run Value := do
  if receiver.isAbsent then Run.raise .typeError noObject
  let length ← E.lengthOf receiver
  let _ ← (args.zipIdx length).mapM fun (v, i) => E.set true receiver (indexKey i) v
  let total := length + args.length
  match receiver with
  | .object at_ =>
    match ((← Run.machine).obj at_).kind with
    | .array _ => pure ()
    | _ => E.set true receiver lengthKey (Value.whole total)
  | _ => pure ()
  return Value.whole total

/-! ## Texts of objects -/

/-- The name of an object's kind in brackets. -/
def objectText (m : Machine) : Value → String
  | .undefined => "[object Undefined]"
  | .null => "[object Null]"
  | .bool _ => "[object Boolean]"
  | .num _ => "[object Number]"
  | .str _ => "[object String]"
  | .object at_ =>
    if at_ = Realm.json then "[object JSON]"
    else match (m.obj at_).kind with
      | .array _ => "[object Array]"
      | .function .. => "[object Function]"
      | .native _ => "[object Function]"
      | .error _ => "[object Error]"
      | .boxed v => objectText.boxed v
      | .promise _ => "[object Promise]"
      | .ordinary => "[object Object]"
where
  /-- The name of the kind of a value inside an object. -/
  boxed : Value → String
    | .bool _ => "[object Boolean]"
    | .num _ => "[object Number]"
    | .str _ => "[object String]"
    | _ => "[object Object]"

/-- The text of an array: its items joined. -/
def arrayTextCall (E : Engine) (receiver : Value) : Run Value := do
  match ← E.callMethod receiver "join" with
  | some v => return v
  | none => return Value.text (objectText (← Run.machine) receiver)

/-- The text of a function. -/
def functionTextCall (E : Engine) (receiver : Value) : Run Value := do
  if !(← Run.machine).isCallable receiver then Run.raise .typeError "object is not callable"
  let name ← E.shownText (← E.get receiver (Units.ofString "name"))
  return Value.text ("function " ++ name ++ "() \x7b [native code] \x7d")

/-- The text of an error: its name and its message, where they are not empty. -/
def errorTextCall (E : Engine) (receiver : Value) : Run Value := do
  match receiver with
  | .object _ =>
    let part (key otherwise : String) : Run Units := do
      match ← E.get receiver (Units.ofString key) with
      | .undefined => return Units.ofString otherwise
      | v => E.text v
    let name ← part "name" "Error"
    let message ← part "message" ""
    if name.isEmpty then return .str message
    else if message.isEmpty then return .str name
    else return .str (name ++ Units.ofString ": " ++ message)
  | _ => Run.raise .typeError "'this' is not an Object"

/-- The value that a method of texts, numbers and truth values is called on. -/
def unboxed (receiver : Value) : Run Value := do
  match receiver with
  | .object at_ =>
    match ((← Run.machine).obj at_).kind with
    | .boxed v => return v
    | _ => Run.raise .typeError "'this' is not a primitive value"
  | v => return v

/-! ## Promises -/

/-- A new promise. -/
def newPromise (state : PromiseState) : Run Nat :=
  Run.alloc ⟨.promise state, some Realm.promiseParent, []⟩

/-- Settles a promise that is pending. -/
def settle (at_ : Nat) (state : PromiseState) : Run Unit :=
  Run.change fun m =>
    match (m.obj at_).kind with
    | .promise .pending => m.setObj at_ { m.obj at_ with kind := .promise state }
    | _ => m

/-- A function that settles a promise. -/
def settler (at_ : Nat) (fulfil : Bool) : Run Value := do
  return .object (← Run.alloc (Realm.nativeObject (.settle at_ fulfil)))

/-- A promise, settled by the function that it is made with. Nothing waits for it: its followers are
never run. -/
def promiseCall (E : Engine) (args : List Value) : Run Value := do
  let f := arg args 0
  if !(← Run.machine).isCallable f then Run.raise .typeError "Promise executor is not callable"
  let at_ ← newPromise .pending
  let resolve ← settler at_ true
  let reject ← settler at_ false
  match ← (E.call f .undefined [resolve, reject]).attempt with
  | .ok _ => pure ()
  | .error (.thrown v) => settle at_ (.rejected v)
  | .error (.raised kind message) =>
    settle at_ (.rejected (← newError kind (some (Units.ofString message))))
  | .error e => Run.abrupt e
  return .object at_

/-- A promise that follows another. -/
def followCall (receiver : Value) : Run Value := do
  match receiver with
  | .object at_ =>
    match ((← Run.machine).obj at_).kind with
    | .promise _ => return .object (← newPromise .pending)
    | _ => Run.raise .typeError "Promise.prototype.then: this is not a promise"
  | _ => Run.raise .typeError "Promise.prototype.then: this is not a promise"

/-! ## All of them -/

/-- A call of a provided function; `making` where it is to make an object. -/
def callNative (E : Engine) (n : Native) (making : Bool) (receiver : Value) (args : List Value) :
    Run Value := do
  match n with
  | .console method =>
    let text ← E.consoleText method args
    Run.say method.channel text
    return .undefined
  | .prompt => E.promptCall args
  | .toText =>
    let s ← match args with
      | v :: _ => E.text v
      | [] => pure []
    if making then newBoxed (.str s) Realm.textParent else return .str s
  | .toNumber =>
    let v ← match args with
      | v :: _ => do pure (Value.double (← E.number v))
      | [] => pure (Value.whole 0)
    if making then newBoxed v Realm.numberParent else return v
  | .toBool =>
    let v := Value.bool (arg args 0).isTrue
    if making then newBoxed v Realm.boolParent else return v
  | .parseInt => E.parseIntCall args
  | .stringify =>
    let holder ← newObject
    E.set false holder [] (arg args 0)
    E.stringifyCall holder (arg args 0) (arg args 1) (arg args 2)
  | .makeObject =>
    match arg args 0 with
    | .undefined => newObject
    | .null => newObject
    | .object at_ => return .object at_
    | v => newBoxed v ((placeOf v).getD Realm.objectParent)
  | .makeArray => arrayCall args
  | .makeError kind => E.errorCall kind args
  | .makePromise =>
    if making then E.promiseCall args
    else Run.raise .typeError "Promise NewTarget cannot be undefined"
  | .promiseResolve =>
    match arg args 0 with
    | .object at_ =>
      match ((← Run.machine).obj at_).kind with
      | .promise _ => return .object at_
      | _ => return .object (← newPromise (.fulfilled (.object at_)))
    | v => return .object (← newPromise (.fulfilled v))
  | .promiseReject => return .object (← newPromise (.rejected (arg args 0)))
  | .promiseThen => followCall receiver
  | .promiseCatch => followCall receiver
  | .promiseFinally => followCall receiver
  | .settle at_ fulfil =>
    let v := arg args 0
    settle at_ (if fulfil then .fulfilled v else .rejected v)
    return .undefined
  | .objectText => return Value.text (objectText (← Run.machine) receiver)
  | .objectValue =>
    if receiver.isAbsent then Run.raise .typeError noObject else return receiver
  | .functionText => E.functionTextCall receiver
  | .arrayText => E.arrayTextCall receiver
  | .arrayJoin => E.joinCall receiver (arg args 0)
  | .arrayMap => E.mapCall receiver (arg args 0) (arg args 1)
  | .arrayPush => E.pushCall receiver args
  | .textSplit => E.splitCall receiver args
  | .textUpper => E.upperCall receiver
  | .primitiveText => return .str (primitiveUnits (← unboxed receiver))
  | .primitiveValue => unboxed receiver
  | .errorText => E.errorTextCall receiver

end Engine

end Snippet.Script
