import Snippet.Guest.Natives
import Snippet.Guest.Grammar
/-!
The meaning of expressions and statements.

Each rule says what one construct does; wherever a part has to be evaluated it goes through the engine.
`engine` ties the rules together, and every trip through it uses up one unit of a budget, so evaluation
always ends.
-/

namespace Snippet.Guest

open Snippet.Text

/-- How many functions may run inside one another. With more of them the interpreter may give up, depending on what
it does between them. -/
def depthLimit : Nat := 200

namespace Engine

/-! ## Names -/

/-- The scopes of the functions around what is defined in a place. -/
def scopesInside (fr : Frame) : List (Nat × List String) :=
  match fr.locals with
  | some names => (fr.scope, names) :: fr.outer
  | none => fr.outer

/-- The value of a name that is not bound in the scope at hand. -/
def freeName (fr : Frame) (x : String) : Run Value := do
  match (fr.outer.find? fun s => s.2.contains x).filter fun s => s.1 != fr.globals with
  | some (scope, _) =>
    match ← Run.reading fun m => m.named? scope x with
    | some v => return v
    | none =>
      Run.raise "NameError" ("cannot access free variable '" ++ x ++
        "' where it is not associated with a value in enclosing scope")
  | none =>
    match ← Run.reading fun m => (m.named? fr.globals x).orElse fun _ =>
        m.moduleAttr? builtinsPlace x with
    | some v => return v
    | none =>
      if leftOutNames.contains x || isSpecialName x then Run.abrupt .beyond
      else Run.raise "NameError" ("name '" ++ x ++ "' is not defined")

/-- What is said of a name of a function that has no value yet. -/
def unbound {α : Type} (x : String) : Run α :=
  Run.raise "UnboundLocalError" ("cannot access local variable '" ++ x ++
    "' where it is not associated with a value")

/-- The value of a name. -/
def readName (fr : Frame) (x : String) : Run Value := do
  let here ← Run.reading fun m => m.named? fr.scope x
  match fr.locals, here with
  | none, some v => return v
  | none, none => freeName fr x
  | some names, here =>
    if names.contains x then
      match here with
      | some v => return v
      | none => unbound x
    else freeName fr x

/-- The scope in which a name is bound. -/
def homeOf (fr : Frame) (x : String) : Nat :=
  match fr.locals with
  | none => fr.scope
  | some names =>
    if names.contains x then fr.scope
    else
      match fr.outer.find? fun s => s.2.contains x with
      | some (scope, _) => scope
      | none => fr.globals

/-- Names that mean something to the interpreter while a program runs. -/
def runningNames : List String := ["__name__", "__builtins__"]

/-- Binds a name. -/
def writeName (fr : Frame) (x : String) (v : Value) : Run Unit :=
  if runningNames.contains x then Run.abrupt .beyond
  else Run.change fun m => m.bindName (homeOf fr x) x v

/-- Takes the value of a name away. -/
def deleteName (fr : Frame) (x : String) : Run Unit := do
  let home := homeOf fr x
  if runningNames.contains x then Run.abrupt .beyond
  match ← Run.reading fun m => m.named? home x with
  | some _ => Run.change fun m => m.unbind home x
  | none =>
    if (fr.locals.getD []).contains x then unbound x
    else Run.raise "NameError" ("name '" ++ x ++ "' is not defined")

/-! ## Places in containers -/

/-- The place of an index in a sequence of a length, if there is one. -/
def indexPlace (length : Nat) (i : Int) : Option Nat :=
  let i := if i < 0 then i + length else i
  if 0 ≤ i && i < length then some i.toNat else none

/-- What is said of an index that is no whole number. -/
def badIndex {α : Type} (kind : String) (i : Value) : Run α := do
  let name ← kindOf i
  Run.raise "TypeError" (
    if kind == "string" then "string indices must be integers, not '" ++ name ++ "'"
    else kind ++ " indices must be integers or slices, not " ++ name)

/-- The item of a sequence at an index. -/
def itemAt {α : Type} (kind : String) (xs : List α) (i : Value) : Run α := do
  match i.int? with
  | none => badIndex kind i
  | some n =>
    match (indexPlace xs.length n).bind fun i => xs[i]? with
    | some x => return x
    | none => Run.raise "IndexError" (kind ++ " index out of range")

/-- Classes that stand for others with something in square brackets behind them. -/
def subscripted : List String := ["dict", "list", "tuple", "type"]

/-- The item at an index of an object. -/
def getItem (E : Engine) (v i : Value) (o : Obj) : Run Value := do
  match o with
  | .list vs => itemAt "list" vs.toList i
  | .dict items =>
    match ← E.lookUp items i with
    | some v => return v
    | none => Run.raiseWith "KeyError" [i]
  | .klass name _ _ => Run.raise "TypeError" ("type '" ++ name ++ "' is not subscriptable")
  | _ =>
    match ← Run.reading fun m => m.method? v "__getitem__" with
    | some f => E.call f [v, i] []
    | none => Run.raise "TypeError" ("'" ++ (← kindOf v) ++ "' object is not subscriptable")

/-- The item at an index. -/
def getIndex (E : Engine) (v i : Value) : Run Value := do
  match v with
  | .str p => do return .str [← itemAt "string" p i]
  | .bytes p =>
    if i.int?.isNone then Run.abrupt .beyond else return .int (Int.ofNat (← itemAt "index" p i))
  | .tuple vs => itemAt "tuple" vs i
  | .range a b s =>
    match i.int? with
    | none => badIndex "range" i
    | some n =>
      match indexPlace (rangeLength a b s) n with
      | some n => return .int (a + n * s)
      | none => Run.raise "IndexError" "range object index out of range"
  | .cls name =>
    if subscripted.contains name then Run.abrupt .beyond
    else Run.raise "TypeError" ("type '" ++ ownName name ++ "' is not subscriptable")
  | .native x =>
    if classLike.contains x then Run.abrupt .beyond
    else Run.raise "TypeError" ("'" ++ (← kindOf v) ++ "' object is not subscriptable")
  | .ref at_ => do E.getItem v i (← Run.obj at_)
  | _ => Run.raise "TypeError" ("'" ++ (← kindOf v) ++ "' object is not subscriptable")

/-- Sets the item at an index. -/
def setIndex (E : Engine) (v i new : Value) : Run Unit := do
  let refused : Run Unit := do
    Run.raise "TypeError" ("'" ++ (← kindOf v) ++ "' object does not support item assignment")
  match v with
  | .ref at_ =>
    match ← Run.obj at_ with
    | .list vs =>
      match i.int? with
      | none => badIndex "list" i
      | some n =>
        match indexPlace vs.size n with
        | some k => Run.change fun m => m.setObj at_ (.list (vs.setIfInBounds k new))
        | none => Run.raise "IndexError" "list assignment index out of range"
    | .dict items =>
      let items ← E.withItem items i new
      Run.change fun m => m.setObj at_ (.dict items)
    | _ =>
      match ← Run.reading fun m => m.method? v "__setitem__" with
      | some f => do
        let _ ← E.call f [v, i, new] []
      | none => refused
  | _ => refused

/-- Takes the item at an index away. -/
def deleteIndex (E : Engine) (v i : Value) : Run Unit := do
  let refused : Run Unit := do
    Run.raise "TypeError" ("'" ++ (← kindOf v) ++ "' object doesn't support item deletion")
  match v with
  | .ref at_ =>
    match ← Run.obj at_ with
    | .list vs =>
      match i.int? with
      | none => badIndex "list" i
      | some n =>
        match indexPlace vs.size n with
        | some k => Run.change fun m => m.setObj at_ (.list (vs.toList.eraseIdx k).toArray)
        | none => Run.raise "IndexError" "list assignment index out of range"
    | .dict items =>
      match ← E.lookUp items i with
      | none => Run.raiseWith "KeyError" [i]
      | some _ =>
        let items ← E.withoutItem items i
        Run.change fun m => m.setObj at_ (.dict items)
    | _ => refused
  | _ => refused

/-- The places that a slice of a sequence takes, from three bounds that may be left out. -/
def slicePlaces (length : Nat) (from_ until_ step : Option Int) : List Nat :=
  let step := step.getD 1
  let bound (i : Int) : Int :=
    let i := if i < 0 then i + length else i
    if 0 < step then max 0 (min i length) else max (-1) (min i (length - 1))
  let a := (from_.map bound).getD (if 0 < step then 0 else length - 1)
  let b := (until_.map bound).getD (if 0 < step then length else -1)
  (List.range (rangeLength a b step)).map fun k : Nat => (a + (k : Int) * step).toNat

/-- A bound of a slice. -/
def sliceBound (E : Engine) (fr : Frame) : Option Expr → Run (Option Int)
  | none => return none
  | some e => do
    match ← E.eval fr e with
    | .none => return none
    | v =>
      match v.int? with
      | some n => return some n
      | none =>
        Run.raise "TypeError" "slice indices must be integers or None or have an __index__ method"

/-- A part of a sequence. -/
def getSlice (E : Engine) (fr : Frame) (v : Value) (from_ until_ step : Option Expr) : Run Value := do
  let a ← E.sliceBound fr from_
  let b ← E.sliceBound fr until_
  let s ← E.sliceBound fr step
  if s == some 0 then Run.raise "ValueError" "slice step cannot be zero"
  let part {α : Type} (xs : List α) : List α :=
    (slicePlaces xs.length a b s).filterMap fun k => xs[k]?
  match v with
  | .str p => return .str (part p)
  | .bytes p => return .bytes (part p)
  | .tuple vs => return .tuple (part vs)
  | v =>
    match ← listItems? v, ← dictItems? v, ← Run.reading fun m => m.method? v "__getitem__" with
    | some vs, _, _ => Run.alloc (.list (part vs).toArray)
    | none, none, none =>
      match v with
      | .range .. => Run.abrupt .beyond
      | .cls _ => Run.abrupt .beyond
      | v => Run.raise "TypeError" ("'" ++ (← kindOf v) ++ "' object is not subscriptable")
    | _, _, _ => Run.abrupt .beyond

/-! ## Targets -/

/-- The next items at a cursor, no more than so many. -/
def someItems (E : Engine) (c : Value) : Nat → Run (List Value)
  | 0 => return []
  | n + 1 => do
    match ← E.next c with
    | some v => return v :: (← someItems E c n)
    | none => return []

/-- A cursor at what is to be unpacked. -/
def unpacking (E : Engine) (v : Value) : Run Value := do
  if (← Run.reading fun m => m.method? v "__iter__").isSome then E.cursor v
  else E.cursorOr v do Run.raise "TypeError" ("cannot unpack non-iterable " ++ (← kindOf v) ++ " object")

/-- Stores a value into a target. The number bounds how deep targets nest. -/
def store (E : Engine) (fr : Frame) : Nat → Expr → Value → Run Unit
  | 0, _, _ => Run.abrupt .beyond
  | n + 1, target, v => do
    match target with
    | .name x => writeName fr x v
    | .attr e x => do setAttr (← E.eval fr e) x v
    | .index e i =>
      let base ← E.eval fr e
      E.setIndex base (← E.eval fr i) v
    | .tuple targets => storeAll n targets v
    | .list targets => storeAll n targets v
    | _ => Run.abrupt .beyond
where
  isStar : Expr → Bool
    | .star _ => true
    | _ => false
  storeAll (n : Nat) (targets : List Expr) (v : Value) : Run Unit := do
    let c ← E.unpacking v
    let want := targets.length
    let open_ := targets.findIdx? isStar
    let vs ← if open_.isSome then E.itemsAt c else E.someItems c (want + 1)
    let got := vs.length
    match open_ with
    | none =>
      if got < want then
        Run.raise "ValueError" ("not enough values to unpack (expected " ++ toString want ++ ", got " ++
          toString got ++ ")")
      else if want < got then
        Run.raise "ValueError" ("too many values to unpack (expected " ++ toString want ++ ")")
      else do
        let _ ← (targets.zip vs).mapM fun (t, v) => store E fr n t v
    | some k =>
      if got + 1 < want then
        Run.raise "ValueError" ("not enough values to unpack (expected at least " ++
          toString (want - 1) ++ ", got " ++ toString got ++ ")")
      else do
        let tail := want - 1 - k
        let middle ← Run.alloc (.list ((vs.take (got - tail)).drop k).toArray)
        let all := vs.take k ++ [middle] ++ vs.drop (got - tail)
        let _ ← (targets.zip all).mapM fun (t, v) =>
          match t with
          | .star t => store E fr n t v
          | t => store E fr n t v

/-- How deep targets may nest. -/
def nesting : Nat := 100

/-- Takes what a target stands for away. -/
def delete (E : Engine) (fr : Frame) : Expr → Run Unit
  | .name x => deleteName fr x
  | .attr e x => do delAttr (← E.eval fr e) x
  | .index e i => do
    let base ← E.eval fr e
    E.deleteIndex base (← E.eval fr i)
  | _ => Run.abrupt .beyond

/-! ## Operators -/

/-- An operation on one value. -/
def unary (E : Engine) (op : UnaryOp) (v : Value) : Run Value := do
  let bad (sign : String) : Run Value := do
    Run.raise "TypeError" ("bad operand type for unary " ++ sign ++ ": '" ++ (← kindOf v) ++ "'")
  match op, v, v.int? with
  | .not, v, _ => do return .bool !(← E.truth v)
  | .minus, .float x, _ => return .float (-x)
  | .plus, .float x, _ => return .float x
  | .minus, _, some n => return .int (-n)
  | .plus, _, some n => return .int n
  | .invert, _, some n => return .int (-n - 1)
  | .minus, _, none => bad "-"
  | .plus, _, none => bad "+"
  | .invert, _, none => bad "~"

/-- A row of comparisons, the first value given. -/
def compareChain (E : Engine) (fr : Frame) : Value → List (CompareOp × Expr) → Run Value
  | v, [] => return v
  | v, [(op, e)] => do E.compared op v (← E.eval fr e)
  | v, (op, e) :: rest => do
    let w ← E.eval fr e
    let r ← E.compared op v w
    if ← E.truth r then compareChain E fr w rest else return r

/-! ## Calls -/

/-- A call of a function of the program. -/
def callFunction (E : Engine) (f : Func) (fallbacks : List (Option Value)) (home : Frame)
    (args : List Value) (named : Named) : Run Value := do
  let name := home.path ++ f.name
  let names ← bindArguments name (f.params.map (·.1)) f.rest fallbacks args named
  if depthLimit ≤ (← Run.reading fun m => m.depth) then Run.abrupt .beyond
  let scope ← Run.changing fun m => ({ m with depth := m.depth + 1 }).openScope names
  let fr : Frame :=
    { scope
      locals := some f.locals
      outer := (home.globals, f.globals) :: scopesInside home
      globals := home.globals
      owner := home.owner
      receiver := f.params.head?.bind fun p => (names.find? fun b => b.1 == p.1).map (·.2)
      path := name ++ ".<locals>." }
  let ending ← Run.attempt (E.exec fr f.body)
  Run.change fun m => { m with depth := m.depth - 1 }
  match ending with
  | .ok (.returned v) => return v
  | .ok _ => return .none
  | .error e => Run.abrupt e

/-- A call of a value. -/
def callRule (E : Engine) (f : Value) (args : List Value) (named : Named) : Run Value := do
  let bad : Run Value := do
    Run.raise "TypeError" ("'" ++ (← kindOf f) ++ "' object is not callable")
  match f with
  | .native name => E.nativeCall name args named
  | .asker serial => E.input serial args named
  | .bound self (.native x) => E.methodCall self x args named
  | .bound _ (.bound _ _) => bad
  | .bound self f => E.call f (self :: args) named
  | .cls kind => E.construct kind args named
  | .ref at_ =>
    match ← Run.obj at_ with
    | .func g fallbacks home => E.callFunction g fallbacks home args named
    | .klass .. => E.newInstance f args named
    | _ =>
      match ← Run.reading fun m => m.method? f "__call__" with
      | some g => E.call g (f :: args) named
      | none => bad
  | _ => bad

/-- The values of items, those of a starred one in its place. -/
def evalItems (E : Engine) (fr : Frame) : List Expr → Run (List Value)
  | [] => return []
  | .star e :: rest => do
    let c ← E.cursorOr (← E.eval fr e) (Run.abrupt .beyond)
    let vs ← E.itemsAt c
    return vs ++ (← evalItems E fr rest)
  | e :: rest => do
    let v ← E.eval fr e
    return v :: (← evalItems E fr rest)

/-- Arguments by name, those of a dictionary in its place. -/
def evalNamed (E : Engine) (fr : Frame) : List (String × Expr) → Run Named
  | [] => return []
  | ("**", e) :: rest => do
    let v ← E.eval fr e
    match ← dictItems? v with
    | none => Run.abrupt .beyond
    | some items =>
      let here ← items.mapM fun
        | (.str p, v) =>
          match p.toString? with
          | some x => return (x, v)
          | none => Run.abrupt .beyond
        | _ => Run.abrupt .beyond
      return here ++ (← evalNamed E fr rest)
  | (x, e) :: rest => do
    let v ← E.eval fr e
    return (x, v) :: (← evalNamed E fr rest)

/-- A call. -/
def evalCall (E : Engine) (fr : Frame) (f : Expr) (args : List Expr) (named : List (String × Expr)) :
    Run Value := do
  let f ← E.eval fr f
  let args ← E.evalItems fr args
  let named ← E.evalNamed fr named
  let names := named.map (·.1)
  if names.eraseDups.length != names.length then Run.abrupt .beyond
  let above (self owner : Value) : Run Value := do
    if named.isEmpty && (← Run.reading fun m => m.below (m.classOf self) owner) then
      return .bound self (.bound owner f)
    else Run.abrupt .beyond
  match f, args, fr.owner, fr.receiver with
  | .cls "super", [], some owner, some self => above self (.ref owner)
  | .cls "super", [owner, self], _, _ => above self owner
  | .cls "super", _, _, _ => Run.abrupt .beyond
  | f, args, _, _ => E.call f args named

/-- A function as a value. -/
def makeFunction (E : Engine) (fr : Frame) (f : Func) : Run Value := do
  let fallbacks ← f.params.mapM fun (_, e) =>
    match e with
    | some e => do return some (← E.eval fr e)
    | none => return none
  Run.alloc (.func f fallbacks fr)

/-! ## Expressions -/

/-- The parts of a text with values in between. -/
def evalParts (E : Engine) (fr : Frame) : List Part → Run Points
  | [] => return []
  | .text p :: rest => do return p ++ (← evalParts E fr rest)
  | .value e conversion spec :: rest => do
    let v ← E.converted conversion (← E.eval fr e)
    let p ← E.formatted v spec
    return p ++ (← evalParts E fr rest)

/-- Do all conditions hold? -/
def allHold (E : Engine) (fr : Frame) : List Expr → Run Bool
  | [] => return true
  | e :: rest => do
    if ← E.truth (← E.eval fr e) then allHold E fr rest else return false

/-- The values of an item over loops, the latest first, given a cursor for the first loop. -/
def comprehend (E : Engine) (fr : Frame) (item : Expr) :
    List Loop → Value → List Value → Run (List Value)
  | [], _, acc => return acc
  | .mk target _ conditions :: rest, c, acc =>
    Run.repeating (fun (acc : List Value) => do
      match ← E.next c with
      | none => return .inr acc
      | some v =>
        E.store fr nesting target v
        if ← E.allHold fr conditions then
          match rest with
          | [] => return .inl ((← E.eval fr item) :: acc)
          | .mk _ source _ :: _ =>
            let inner ← E.cursor (← E.eval fr source)
            return .inl (← comprehend E fr item rest inner acc)
        else return .inl acc) E.rounds acc

/-- The frame of a comprehension, whose targets are its own. -/
def comprehensionFrame (fr : Frame) (loops : List Loop) : Run Frame := do
  let scope ← Run.changing fun m => m.openScope []
  let names := loops.flatMap fun
    | .mk target _ _ => target.targetNames
  return { fr with scope, locals := some names, outer := scopesInside fr, receiver := none }

/-- The values of an item over loops. What the first loop goes through is looked up outside of them. -/
def evalLoops (E : Engine) (fr : Frame) (item : Expr) (loops : List Loop) : Run (List Value) := do
  match loops with
  | [] => return []
  | .mk _ source _ :: _ =>
    let c ← E.cursor (← E.eval fr source)
    let inner ← comprehensionFrame fr loops
    return (← E.comprehend inner item loops c []).reverse

/-- The value of an expression. -/
def evalRule (E : Engine) (fr : Frame) (e : Expr) : Run Value := do
  match e with
  | .none => return .none
  | .bool b => return .bool b
  | .int n => return .int n
  | .float x => return .float x
  | .str p => return .str p
  | .bytes p => return .bytes p
  | .format parts => do return .str (← E.evalParts fr parts)
  | .name x => readName fr x
  | .tuple items => do return .tuple (← E.evalItems fr items)
  | .list items => do Run.alloc (.list (← E.evalItems fr items).toArray)
  | .dict items =>
    let items ← items.foldlM (fun acc (k, v) => do
      let k ← E.eval fr k
      let v ← E.eval fr v
      E.withItem acc k v) []
    Run.alloc (.dict items)
  | .unary op e => do E.unary op (← E.eval fr e)
  | .binary op a b =>
    let x ← E.eval fr a
    let y ← E.eval fr b
    E.binary op op.sign x y
  | .compare first rest => do E.compareChain fr (← E.eval fr first) rest
  | .and a b =>
    let x ← E.eval fr a
    if ← E.truth x then E.eval fr b else return x
  | .or a b =>
    let x ← E.eval fr a
    if ← E.truth x then return x else E.eval fr b
  | .cond c a b => do
    if ← E.truth (← E.eval fr c) then E.eval fr a else E.eval fr b
  | .call f args named => E.evalCall fr f args named
  | .attr e x => do getAttr (← E.eval fr e) x
  | .index e i =>
    let base ← E.eval fr e
    E.getIndex base (← E.eval fr i)
  | .slice e a b s => do E.getSlice fr (← E.eval fr e) a b s
  | .lambda params body => E.makeFunction fr (Func.ofDef "<lambda>" params [.return (some body)])
  | .listOf item loops => do Run.alloc (.list (← E.evalLoops fr item loops).toArray)
  | .star _ => Run.abrupt .beyond

/-! ## Statements -/

/-- What a statement raises: a value that is an exception, or one of a class of exceptions. -/
def toException (E : Engine) (v : Value) : Run Value := do
  let m ← Run.reading id
  let isException (v : Value) : Bool := m.below (m.classOf v) (.cls "BaseException")
  if m.isExceptionClass v then E.call v [] []
  else if isException v then return v
  else Run.raise "TypeError" "exceptions must derive from BaseException"

/-- Raises an exception, with a cause if one is given. -/
def raiseFrom (E : Engine) (v : Value) (cause : Option Value) : Run Completion := do
  let exception ← E.toException v
  match cause with
  | none => Run.throw exception
  | some c =>
    let m ← Run.reading id
    let c ← if m.isExceptionClass c then E.call c [] [] else pure c
    if ← Run.reading fun m => isExceptionOrNone m c then
      Run.change fun m => withKept m exception "__cause__" c
      Run.throw exception
    else Run.raise "TypeError" "exception causes must derive from BaseException"

/-- Does a handler take an exception? -/
def takes (E : Engine) (fr : Frame) (exception : Value) : Option Expr → Run Bool
  | none => return true
  | some e => do
    let c ← E.eval fr e
    let cs := match c with
      | .tuple cs => cs
      | c => [c]
    let m ← Run.reading id
    if cs.all m.isExceptionClass then return cs.any fun c => m.below (m.classOf exception) c
    else
      Run.raise "TypeError"
        "catching classes that do not inherit from BaseException is not allowed"

/-- What the first handler that takes an exception does; without one it is raised again. -/
def handle (E : Engine) (fr : Frame) (exception : Value) :
    List (Handled × List Stmt) → Run Completion
  | [] => Run.abrupt (.raised exception)
  | ((kinds, name), body) :: rest => do
    if ← E.takes fr exception kinds then
      match name with
      | some x => writeName fr x exception
      | none => pure ()
      let ending ← Run.attempt (E.exec fr body)
      match name with
      | some x => Run.change fun m => m.unbind (homeOf fr x) x
      | none => pure ()
      match ending with
      | .ok c => return c
      | .error e => Run.abrupt e
    else handle E fr exception rest

/-- A computation while an exception is handled. -/
def whileHandling {α : Type} (exception : Value) (r : Run α) : Run α := do
  Run.change fun m => { m with handling := exception :: m.handling }
  let ending ← Run.attempt r
  Run.change fun m => { m with handling := m.handling.drop 1 }
  match ending with
  | .ok a => return a
  | .error e => Run.abrupt e

/-- A guarded part of a program, without what is done in the end. -/
def guarded (E : Engine) (fr : Frame) (body : List Stmt) (handlers : List (Handled × List Stmt))
    (orelse : List Stmt) : Run Completion := do
  match ← Run.attempt (E.exec fr body) with
  | .ok .normal => E.exec fr orelse
  | .ok c => return c
  | .error (.raised exception) => whileHandling exception (E.handle fr exception handlers)
  | .error e => Run.abrupt e

/-- A guarded part of a program. What is done in the end is done unless the interpreter is gone. -/
def tryRule (E : Engine) (fr : Frame) (body : List Stmt) (handlers : List (Handled × List Stmt))
    (orelse final : List Stmt) : Run Completion := do
  let ending ← Run.attempt (E.guarded fr body handlers orelse)
  let finish : Run Completion := E.exec fr final
  match ending with
  | .ok c =>
    match ← finish with
    | .normal => return c
    | c => return c
  | .error (.raised exception) =>
    match ← whileHandling exception finish with
    | .normal => Run.abrupt (.raised exception)
    | c => return c
  | .error e => Run.abrupt e

/-- Repeats a body as long as a condition holds. -/
def whileRule (E : Engine) (fr : Frame) (c : Expr) (body orelse : List Stmt) : Run Completion :=
  Run.repeating (fun (_ : Unit) => do
    if ← E.truth (← E.eval fr c) then
      match ← E.exec fr body with
      | .broke => return .inr .normal
      | .returned v => return .inr (.returned v)
      | _ => return .inl ()
    else return .inr (← E.exec fr orelse)) E.rounds ()

/-- Repeats a body for each item of a value. -/
def forRule (E : Engine) (fr : Frame) (target source : Expr) (body orelse : List Stmt) :
    Run Completion := do
  let c ← E.cursor (← E.eval fr source)
  Run.repeating (fun (_ : Unit) => do
    match ← E.next c with
    | none => return .inr (← E.exec fr orelse)
    | some v =>
      E.store fr nesting target v
      match ← E.exec fr body with
      | .broke => return .inr .normal
      | .returned v => return .inr (.returned v)
      | _ => return .inl ()) E.rounds ()

/-- The place of a module; those that are not modelled go beyond. -/
def moduleNamed (x : String) : Run Nat := do
  match ← Run.reading fun m => m.modules.find? fun n => n.1 == x with
  | some (_, at_) => return at_
  | none => Run.abrupt .beyond

/-- Binds names of a module. -/
def importNames (fr : Frame) (module : String) (names : List (String × String)) : Run Unit := do
  let at_ ← moduleNamed module
  let _ ← names.mapM fun (x, as_) => do
    match ← Run.reading fun m => m.moduleAttr? at_ x with
    | some v => writeName fr as_ v
    | none => Run.abrupt .beyond

/-- Can a class have these classes right above it? Those that every program has are exceptions, and several do not
have a class in common apart from the class of all values. -/
def areBases (m : Machine) (bases : List Value) : Bool :=
  let isBase (c : Value) : Bool :=
    match c with
    | .cls "object" => true
    | .cls x => exceptionNames.contains x
    | c => m.isClass c
  let above (c : Value) : List Value :=
    (m.lineage classDepth c).filter fun c => !Machine.sameClass c (.cls "object")
  let rec apart : List Value → Bool
    | [] => true
    | c :: rest =>
      ((above c).all fun d => rest.all fun e => !(above e).any (Machine.sameClass d)) && apart rest
  bases.all isBase && apart bases &&
    (bases.length < 2 || bases.all fun c => !Machine.sameClass c (.cls "object"))

/-- The definition of a class. -/
def classRule (E : Engine) (fr : Frame) (name : String) (bases : List Expr) (body : List Stmt) :
    Run Unit := do
  let bases ← E.evalItems fr bases
  if !(← Run.reading fun m => areBases m bases) then Run.abrupt .beyond
  let bases := if bases.isEmpty then [.cls "object"] else bases
  let path := fr.path ++ name
  let at_ ← Run.changing fun m => m.alloc (.klass name bases [])
  let scope ← Run.changing fun m => m.openScope []
  let inner : Frame :=
    { scope, locals := none, outer := scopesInside fr, globals := fr.globals, owner := some at_
      receiver := none, path := path ++ "." }
  let _ ← E.exec inner body
  let attrs ← Run.reading fun m => (m.scopes[scope]?).getD []
  if !(← Run.reading fun m => attrs.all fun a => isClassName m a.1 a.2) then Run.abrupt .beyond
  Run.change fun m => m.setObj at_ (.klass name bases (("__qualname__", .str (pts path)) :: attrs))
  writeName fr name (.ref at_)

/-- An operation between what a target stands for and a value, stored into the target. A list is changed where
it is. -/
def augmentRule (E : Engine) (fr : Frame) (target : Expr) (op : BinOp) (e : Expr) : Run Unit := do
  let combine (a : Value) : Run Value := do
    let b ← E.eval fr e
    match op, a, ← listItems? a, ← dictItems? a with
    | .add, .ref at_, some _, _ =>
      E.extend at_ b
      return a
    | .mul, .ref at_, some vs, _ =>
      match b.int? with
      | some n =>
        let vs ← repeated vs n
        Run.change fun m => m.setObj at_ (.list vs.toArray)
        return a
      | none => cannotRepeat b
    | .bitOr, _, _, some _ => Run.abrupt .beyond
    | _, _, _, _ => E.binary op ((if op == .pow then "**" else op.sign) ++ "=") a b
  match target with
  | .name x => do writeName fr x (← combine (← readName fr x))
  | .attr o x =>
    let base ← E.eval fr o
    setAttr base x (← combine (← getAttr base x))
  | .index o i =>
    let base ← E.eval fr o
    let at_ ← E.eval fr i
    E.setIndex base at_ (← combine (← E.getIndex base at_))
  | _ => Run.abrupt .beyond

/-- A statement. -/
def statement (E : Engine) (fr : Frame) (s : Stmt) : Run Completion := do
  match s with
  | .expr e =>
    let _ ← E.eval fr e
    return .normal
  | .assign targets e =>
    let v ← E.eval fr e
    let _ ← targets.mapM fun t => E.store fr nesting t v
    return .normal
  | .augment target op e =>
    E.augmentRule fr target op e
    return .normal
  | .pass => return .normal
  | .break => return .broke
  | .continue => return .continued
  | .return none => return .returned .none
  | .return (some e) => do return .returned (← E.eval fr e)
  | .raise none _ =>
    match ← Run.reading fun m => m.handling.head? with
    | some e => Run.abrupt (.raised e)
    | none => Run.raise "RuntimeError" "No active exception to reraise"
  | .raise (some e) cause =>
    let v ← E.eval fr e
    let c ← match cause with
      | none => pure none
      | some e => do pure (some (← E.eval fr e))
    E.raiseFrom v c
  | .import modules =>
    let _ ← modules.mapM fun (module, x) => do
      let at_ ← moduleNamed module
      writeName fr x (.ref at_)
    return .normal
  | .importFrom module names =>
    importNames fr module names
    return .normal
  | .global _ => return .normal
  | .delete targets =>
    let _ ← targets.mapM fun t => E.delete fr t
    return .normal
  | .assert c message =>
    if ← E.truth (← E.eval fr c) then return .normal
    else
      match message with
      | none => Run.raiseWith "AssertionError" []
      | some e => do Run.raiseWith "AssertionError" [← E.eval fr e]
  | .if c body orelse => do
    if ← E.truth (← E.eval fr c) then E.exec fr body else E.exec fr orelse
  | .while c body orelse => E.whileRule fr c body orelse
  | .for target source body orelse => E.forRule fr target source body orelse
  | .try body handlers orelse final => E.tryRule fr body handlers orelse final
  | .function name params body =>
    writeName fr name (← E.makeFunction fr (Func.ofDef name params body))
    return .normal
  | .klass name bases body =>
    E.classRule fr name bases body
    return .normal

/-- Statements one after another, until one of them does not complete normally. -/
def execRule (E : Engine) (fr : Frame) : List Stmt → Run Completion
  | [] => return .normal
  | s :: rest => do
    match ← E.statement fr s with
    | .normal => execRule E fr rest
    | c => return c

end Engine

/-- How often a loop may go round. -/
def loopBound : Nat := 100000000

/-- Evaluation; each trip through the engine uses up one unit. -/
def engine : Nat → Engine
  | 0 =>
    { eval := fun _ _ => Run.abrupt .beyond
      exec := fun _ _ => Run.abrupt .beyond
      call := fun _ _ _ => Run.abrupt .beyond
      text := fun _ => Run.abrupt .beyond
      shown := fun _ => Run.abrupt .beyond
      next := fun _ => Run.abrupt .beyond
      rounds := 0 }
  | n + 1 =>
    { eval := fun fr e => (engine n).evalRule fr e
      exec := fun fr b => (engine n).execRule fr b
      call := fun f args named => (engine n).callRule f args named
      text := fun v => (engine n).textRule v
      shown := fun v => (engine n).shownRule v
      next := fun v => (engine n).nextRule v
      rounds := loopBound }

end Snippet.Guest
