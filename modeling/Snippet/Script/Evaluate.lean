import Snippet.Script.Operators
import Snippet.Script.Builtins
import Snippet.Script.Grammar
/-!
The meaning of expressions and statements.

Each rule says what one construct does; wherever a part has to be evaluated it goes through the engine.
`engine` ties the rules together, and every trip through it uses up one unit of a budget, so evaluation
always ends.
-/

namespace Snippet.Script

open Snippet.Text

/-- How many functions may run inside one another. -/
def depthLimit : Nat := 511

namespace Engine

/-! ## Names -/

/-- What is said of a name that stands for nothing. -/
def undefinedName (x : String) : String := x ++ " is not defined"

/-- The value of a name. -/
def readName (E : Engine) (fr : Frame) (x : String) : Run Value := do
  match ← Run.reading fun m => m.resolve fr.scope x with
  | some (_, ⟨some v, _⟩) => return v
  | some (_, ⟨none, _⟩) => Run.raise .referenceError (undefinedName x)
  | none =>
    match ← Run.reading fun m => m.lookup Realm.globals (Units.ofString x) with
    | some p => E.valueOf (.object Realm.globals) (some p)
    | none => Run.raise .referenceError (undefinedName x)

/-- Stores into a name. One that stands for nothing becomes a global name, except in strict code. -/
def writeName (E : Engine) (fr : Frame) (x : String) (v : Value) : Run Unit := do
  match ← Run.reading fun m => m.resolve fr.scope x with
  | some (at_, ⟨some _, true⟩) => Run.change fun m => m.bindName at_ x v
  | some (_, ⟨some _, false⟩) =>
    Run.raise .typeError ("cannot mutate an immutable binding '" ++ x ++ "'")
  | some (_, ⟨none, _⟩) => Run.raise .referenceError (undefinedName x)
  | none =>
    let known ← Run.reading fun m => (m.lookup Realm.globals (Units.ofString x)).isSome
    if fr.strict && !known then Run.raise .referenceError (undefinedName x)
    else E.set fr.strict (.object Realm.globals) (Units.ofString x) v

/-! ## Functions -/

/-- A function as a value. -/
def makeFunction (fr : Frame) (f : Func) : Run Value := do
  let name := Units.ofString f.name
  let strict := fr.strict || f.isStrict
  let at_ ← Run.alloc ⟨.function f fr.scope fr.receiver strict, some Realm.functionParent,
    Realm.functionProperties name f.expected⟩
  if f.kind = .plain then
    let parent ← Run.alloc (Realm.holder [Realm.hidden "constructor" (.object at_)])
    Run.change fun m =>
      m.put at_ (Units.ofString "prototype") ⟨.data (.object parent), true, false, false⟩
  return .object at_

/-- A function that is known to itself by its name, which cannot be changed there. -/
def makeKnown (fr : Frame) (f : Func) : Run Value := do
  let scope ← Run.openScope [(f.name, ⟨none, false⟩)] fr.scope
  let v ← makeFunction { fr with scope } f
  Run.change fun m => m.bindName scope f.name v
  return v

/-! ## Patterns -/

/-- The items that a value yields, all at once. -/
def itemsOf (E : Engine) (v : Value) : Run (List Value) := do
  match v with
  | .str s => return s.toPoints.map fun n => .str (Units.ofPoint n)
  | .object at_ =>
    let m ← Run.machine
    match (m.obj at_).kind with
    | .array items => (List.range items.size).mapM fun i => E.get v (indexKey i)
    | .boxed (.str s) => return s.toPoints.map fun n => .str (Units.ofPoint n)
    | _ => Run.raise .typeError "value with type \x60object\x60 is not iterable"
  | .undefined => Run.raise .typeError noObject
  | .null => Run.raise .typeError noObject
  | v =>
    Run.raise .typeError
      ("value with type \x60" ++ (← Run.reading fun m => m.typeName v) ++ "\x60 is not iterable")

/-- Stores a value into a place that an expression names; declared names of a block get their first
value. -/
def storeLeaf (E : Engine) (fr : Frame) (kind : Option DeclKind) (target : Expr) (v : Value) :
    Run Unit := do
  match target with
  | .name x =>
    match kind with
    | none => E.writeName fr x v
    | some .var => E.writeName fr x v
    | some _ => Run.change fun m => m.bindName fr.scope x v
  | .member o k => E.set fr.strict (← E.eval fr o) k v
  | .index o k =>
    let base ← E.eval fr o
    let key ← E.eval fr k
    if base.isAbsent then Run.raise .typeError noObject
    E.set fr.strict base (← E.key key) v
  | _ => Run.raise .syntaxError "Invalid left-hand side in assignment"

/-- Stores a value by a pattern; the number bounds how deep patterns nest. -/
def store (E : Engine) (fr : Frame) (kind : Option DeclKind) : Nat → Pattern → Value → Run Unit
  | 0, _, _ => Run.stop .outOfBudget
  | _, .leaf target, v => E.storeLeaf fr kind target v
  | n + 1, .array slots rest, v => do
    let items ← E.itemsOf v
    let _ ← slots.zipIdx.mapM fun (slot, i) =>
      match slot with
      | .skip => pure ()
      | .take p fallback => do
        let item ← match items[i]?.getD .undefined, fallback with
          | .undefined, some e => E.eval fr e
          | v, _ => pure v
        E.store fr kind n p item
    match rest with
    | some p => do E.store fr kind n p (← newArray (items.drop slots.length))
    | none => pure ()

/-- How deep patterns may nest. -/
def patternDepth : Nat := 1000

/-- Stores arguments or the values of a declaration. -/
def storeSlot (E : Engine) (fr : Frame) (kind : DeclKind) (slot : Slot) (v : Value) : Run Unit := do
  match slot with
  | .skip => pure ()
  | .take p fallback =>
    let v ← match v, fallback with
      | .undefined, some e => E.eval fr e
      | v, _ => pure v
    E.store fr (some kind) patternDepth p v

/-! ## Expressions -/

/-- The elements of an array or the arguments of a call; none for a hole. -/
def elementValues (E : Engine) (fr : Frame) : List Element → Run (List (Option Value))
  | [] => return []
  | .hole :: rest => do return none :: (← elementValues E fr rest)
  | .item e :: rest => do
    let v ← E.eval fr e
    return some v :: (← elementValues E fr rest)
  | .spread e :: rest => do
    let vs ← E.itemsOf (← E.eval fr e)
    return vs.map some ++ (← elementValues E fr rest)

/-- The arguments of a call. -/
def arguments (E : Engine) (fr : Frame) (args : List Element) : Run (List Value) := do
  return (← E.elementValues fr args).map fun v => v.getD .undefined

/-- The name of a member. -/
def keyOf (E : Engine) (fr : Frame) : Key → Run Units
  | .fixed k => return k
  | .computed e => do E.key (← E.eval fr e)

/-- The accessor that is already there. -/
def accessorAt (m : Machine) (at_ : Nat) (key : Units) : Option Value × Option Value :=
  match (m.obj at_).own? key with
  | some ⟨.accessor g s, _, _, _⟩ => (g, s)
  | _ => (none, none)

/-- Adds a member to an object that is being made. -/
def addMember (E : Engine) (fr : Frame) (at_ : Nat) : Member → Run Unit
  | .field key e => do
    let k ← E.keyOf fr key
    let v ← E.eval fr e
    Run.change fun m => m.put at_ k (.plain v)
  | .getter key f => do
    let k ← E.keyOf fr key
    let v ← makeFunction fr f
    Run.change fun m =>
      m.put at_ k ⟨.accessor (some v) (accessorAt m at_ k).2, true, true, true⟩
  | .setter key f => do
    let k ← E.keyOf fr key
    let v ← makeFunction fr f
    Run.change fun m =>
      m.put at_ k ⟨.accessor (accessorAt m at_ k).1 (some v), true, true, true⟩
  | .spread e => do
    match ← E.eval fr e with
    | .object from_ =>
      let o ← Run.reading fun m => m.obj from_
      let keys := o.keys.filter fun k => ((o.own? k).map (·.enumerable)).getD false
      let _ ← keys.mapM fun k => do
        let v ← E.get (.object from_) k
        Run.change fun m => m.put at_ k (.plain v)
    | _ => pure ()

/-- The texts of a template and of the values in it. -/
def templateText (E : Engine) (fr : Frame) : List TemplatePart → Run Units
  | [] => return []
  | .mk e text :: rest => do
    let s ← E.text (← E.eval fr e)
    return s ++ text ++ (← templateText E fr rest)

/-- A place to store into, its parts evaluated. -/
inductive Place where
  | name (x : String)
  | property (base : Value) (key : Units)

/-- The place that an expression names. -/
def placeAt (E : Engine) (fr : Frame) : Expr → Run Place
  | .name x => return .name x
  | .member o k => do return .property (← E.eval fr o) k
  | .index o k => do
    let base ← E.eval fr o
    let key ← E.eval fr k
    if base.isAbsent then Run.raise .typeError noObject
    return .property base (← E.key key)
  | _ => Run.raise .syntaxError "Invalid left-hand side in assignment"

/-- The value at a place. -/
def readPlace (E : Engine) (fr : Frame) : Place → Run Value
  | .name x => E.readName fr x
  | .property base key => E.get base key

/-- Stores into a place. -/
def writePlace (E : Engine) (fr : Frame) (p : Place) (v : Value) : Run Unit :=
  match p with
  | .name x => E.writeName fr x v
  | .property base key => E.set fr.strict base key v

/-- An assignment. -/
def assignRule (E : Engine) (fr : Frame) (p : Pattern) (e : Expr) : Run Value := do
  match p with
  | .leaf target =>
    let place ← E.placeAt fr target
    let v ← E.eval fr e
    E.writePlace fr place v
    return v
  | p =>
    let v ← E.eval fr e
    E.store fr none patternDepth p v
    return v

/-- Does a logical operator leave its right operand alone? -/
def settles (op : LogicalOp) (v : Value) : Bool :=
  match op with
  | .and => !v.isTrue
  | .or => v.isTrue
  | .coalesce => !v.isAbsent

/-- A compound assignment. -/
def compoundRule (E : Engine) (fr : Frame) (op : Compound) (target e : Expr) : Run Value := do
  let place ← E.placeAt fr target
  let old ← E.readPlace fr place
  match op with
  | .binary op =>
    let v ← E.binary op old (← E.eval fr e)
    E.writePlace fr place v
    return v
  | .logical op =>
    if settles op old then return old
    else
      let v ← E.eval fr e
      E.writePlace fr place v
      return v

/-- An increment or decrement. -/
def updateRule (E : Engine) (fr : Frame) (by_ : Int) (yieldsNew : Bool) (target : Expr) :
    Run Value := do
  let place ← E.placeAt fr target
  let old : Json.Num ← match ← E.readPlace fr place with
    | .num n => pure n
    | v => do pure (.float (← E.number v))
  let new := addNum old (.int by_)
  E.writePlace fr place (.num new)
  return .num (if yieldsNew then new else old)

/-- A call; a method is called on the object it was found in. -/
def callExpr (E : Engine) (fr : Frame) (f : Expr) (args : List Element) : Run Value := do
  let (receiver, f) ← match f with
    | .member o k => do
      let base ← E.eval fr o
      let f ← E.get base k
      pure (base, f)
    | .index o k => do
      let base ← E.eval fr o
      let key ← E.eval fr k
      if base.isAbsent then Run.raise .typeError noObject
      let f ← E.get base (← E.key key)
      pure (base, f)
    | f => do
      let f ← E.eval fr f
      pure (.undefined, f)
  let vs ← E.arguments fr args
  E.call f receiver vs

/-- An operator with one operand. -/
def unaryRule (E : Engine) (fr : Frame) (op : UnaryOp) (e : Expr) : Run Value := do
  match op, e with
  | .typeOf, .name x =>
    let unknown ← Run.reading fun m =>
      (m.resolve fr.scope x).isNone && (m.lookup Realm.globals (Units.ofString x)).isNone
    if unknown then
      return Value.text "undefined"
    else
      let v ← E.readName fr x
      return Value.text (← Run.reading fun m => m.typeName v)
  | .delete, .member o k =>
    match ← E.eval fr o with
    | .object at_ =>
      Run.change fun m => m.remove at_ k
      return .bool true
    | _ => return .bool true
  | .delete, .index o k =>
    let base ← E.eval fr o
    let key ← E.key (← E.eval fr k)
    match base with
    | .object at_ =>
      Run.change fun m => m.remove at_ key
      return .bool true
    | _ => return .bool true
  | .typeOf, e =>
    let v ← E.eval fr e
    return Value.text (← Run.reading fun m => m.typeName v)
  | .delete, e =>
    let _ ← E.eval fr e
    return .bool true
  | .discard, e =>
    let _ ← E.eval fr e
    return .undefined
  | .not, e => return .bool (!(← E.eval fr e).isTrue)
  | .negate, e =>
    match ← E.eval fr e with
    | .num n => return .num (negNum n)
    | v => return .double (-(← E.number v))
  | .plus, e => return .double (← E.number (← E.eval fr e))
  | .complement, e =>
    match ← E.eval fr e with
    | .num n => return .num (.int (wrap32 (-(numTo32 n) - 1)))
    | v => return .num (.int (wrap32 (-(floatTo32 (← E.number v)) - 1)))

/-- The value of an expression. -/
def evalRule (E : Engine) (fr : Frame) (e : Expr) : Run Value := do
  match e with
  | .undefined => return .undefined
  | .null => return .null
  | .bool b => return .bool b
  | .num n => return .num n
  | .str s => return .str s
  | .this => return fr.receiver
  | .name x => E.readName fr x
  | .template first rest => return .str (first ++ (← E.templateText fr rest))
  | .array elements =>
    let items ← E.elementValues fr elements
    return .object (← Run.alloc ⟨.array items.toArray, some Realm.arrayParent, []⟩)
  | .object members =>
    let at_ ← Run.alloc ⟨.ordinary, some Realm.objectParent, []⟩
    let _ ← members.mapM (E.addMember fr at_)
    return .object at_
  | .function f knowsItself => if knowsItself then makeKnown fr f else makeFunction fr f
  | .unary op e => E.unaryRule fr op e
  | .update by_ yieldsNew target => E.updateRule fr by_ yieldsNew target
  | .binary op l r =>
    let a ← E.eval fr l
    let b ← E.eval fr r
    E.binary op a b
  | .logical op l r =>
    let a ← E.eval fr l
    if settles op a then return a else E.eval fr r
  | .assign p e => E.assignRule fr p e
  | .compound op target e => E.compoundRule fr op target e
  | .conditional c t e => if (← E.eval fr c).isTrue then E.eval fr t else E.eval fr e
  | .sequence l r =>
    let _ ← E.eval fr l
    E.eval fr r
  | .call f args => E.callExpr fr f args
  | .construct f args =>
    let f ← E.eval fr f
    let vs ← E.arguments fr args
    E.construct f vs
  | .member o k => E.get (← E.eval fr o) k
  | .index o k =>
    let base ← E.eval fr o
    let key ← E.eval fr k
    if base.isAbsent then Run.raise .typeError noObject
    E.get base (← E.key key)

/-! ## Statements -/

/-- The later of two values, if there is one. -/
def Completion.after (v : Option Value) : Completion → Completion
  | .normal w => .normal (w <|> v)
  | .broke w => .broke (w <|> v)
  | .continued w => .continued (w <|> v)
  | .returned w => .returned w

/-- Statements one after another; `v` is the value so far. -/
def execAll (E : Engine) (fr : Frame) (v : Option Value) : List Stmt → Run Completion
  | [] => return .normal v
  | s :: rest => do
    match ← E.exec fr s with
    | .normal w => execAll E fr (w <|> v) rest
    | c => return Completion.after v c

/-- The names that a block declares. -/
def blockBindings (body : List Stmt) : List (String × Binding) :=
  ((body.flatMap Stmt.lexicalNames).map fun (x, mutable) => (x, ⟨none, mutable⟩)) ++
    (Stmt.functionsOf body).map fun f => (f.name, ⟨none, true⟩)

/-- Gives the functions of a block their names. -/
def hoist (fr : Frame) (body : List Stmt) : Run Unit := do
  let _ ← (Stmt.functionsOf body).mapM fun f => do
    let v ← makeFunction fr f
    Run.change fun m => m.bindName fr.scope f.name v

/-- Statements in a scope of their own. -/
def execBlock (E : Engine) (fr : Frame) (body : List Stmt) : Run Completion := do
  let bindings := blockBindings body
  if bindings.isEmpty then E.execAll fr none body
  else
    let scope ← Run.openScope bindings fr.scope
    let fr := { fr with scope }
    hoist fr body
    E.execAll fr none body

/-- What a loop does after its body: go on with a value, or end. -/
def loopAfter (v : Value) (c : Completion) : Value ⊕ Completion :=
  match c with
  | .normal w => .inl (w.getD v)
  | .continued w => .inl (w.getD v)
  | .broke w => .inr (.normal (some (w.getD v)))
  | .returned w => .inr (.returned w)

/-- A loop with its condition in front. -/
def whileRule (E : Engine) (fr : Frame) (c : Expr) (body : Stmt) : Run Completion :=
  Run.repeating (fun v => do
    if (← E.eval fr c).isTrue then return loopAfter v (← E.exec fr body)
    else return .inr (.normal (some v))) E.rounds .undefined

/-- A loop with its condition behind. -/
def doWhileRule (E : Engine) (fr : Frame) (body : Stmt) (c : Expr) : Run Completion :=
  Run.repeating (fun v => do
    match loopAfter v (← E.exec fr body) with
    | .inr c => return .inr c
    | .inl v =>
      if (← E.eval fr c).isTrue then return .inl v else return .inr (.normal (some v)))
    E.rounds .undefined

/-- A new scope with the names and values of another. -/
def copyScope (fr : Frame) : Run Frame := do
  let s ← Run.reading fun m => m.scopes[fr.scope]?.getD default
  let scope ← Run.changing fun m => m.openScope s.bindings s.outer
  return { fr with scope }

/-- A loop over a counter. Names declared in front are new in each round and keep their values. -/
def forRule (E : Engine) (fr : Frame) (init : Stmt) (test step : Option Expr) (body : Stmt) :
    Run Completion := do
  let names := Stmt.lexicalNames init
  let fresh := !names.isEmpty
  let fr ← if fresh then do
      let scope ← Run.openScope (names.map fun (x, mutable) => (x, ⟨none, mutable⟩)) fr.scope
      pure { fr with scope }
    else pure fr
  let _ ← E.exec fr init
  Run.repeating (fun (fr, v) => do
    let go ← match test with
      | some e => do pure (← E.eval fr e).isTrue
      | none => pure true
    if go then
      match loopAfter v (← E.exec fr body) with
      | .inr c => return .inr c
      | .inl v =>
        let fr ← if fresh then copyScope fr else pure fr
        match step with
        | some e => do
          let _ ← E.eval fr e
        | none => pure ()
        return .inl (fr, v)
    else return .inr (.normal (some v))) E.rounds (fr, Value.undefined)

/-- The item of a value at a position, if there is one; of an array as it is by then. -/
def itemAt (E : Engine) (v : Value) (items : List Value) (i : Nat) : Run (Option Value) := do
  let size? ← Run.reading fun m => match v with
    | .object at_ => (m.obj at_).size?
    | _ => none
  match size? with
  | some size => if i < size then return some (← E.get v (indexKey i)) else return none
  | none => return items[i]?

/-- A loop over the items of a value. -/
def forOfRule (E : Engine) (fr : Frame) (kind : Option DeclKind) (p : Pattern) (e : Expr)
    (body : Stmt) : Run Completion := do
  let mutable := kind != some .constBinding
  let names := match kind with
    | some .letBinding => p.names
    | some .constBinding => p.names
    | _ => []
  let enter (bound : Bool) : Run Frame := do
    if names.isEmpty then return fr
    else
      let scope ← Run.openScope (names.map fun x => (x, ⟨none, mutable || !bound⟩)) fr.scope
      return { fr with scope }
  let v ← E.eval (← enter false) e
  let items ← E.itemsOf v
  Run.repeating (fun (i, w) => do
    match ← E.itemAt v items i with
    | none => return .inr (.normal (some w))
    | some item =>
      let fr ← enter true
      E.store fr kind patternDepth p item
      match loopAfter w (← E.exec fr body) with
      | .inr c => return .inr c
      | .inl w => return .inl (i + 1, w)) E.rounds (0, Value.undefined)

/-- The value that an exception is caught with; none if it cannot be caught. -/
def caught : Abrupt → Run Value
  | .thrown v => return v
  | .raised kind message => newError kind (some (Units.ofString message))
  | .tooDeep => Run.abrupt .tooDeep

/-- What follows an exception. -/
def handle (E : Engine) (fr : Frame) (param : Option Pattern) (handler : List Stmt) (e : Abrupt) :
    Run Completion := do
  let v ← caught e
  match param with
  | none => E.execBlock fr handler
  | some p =>
    let scope ← Run.openScope (p.names.map fun x => (x, ⟨none, true⟩)) fr.scope
    let fr := { fr with scope }
    E.store fr (some .letBinding) patternDepth p v
    E.execBlock fr handler

/-- Can what ended a computation be caught? -/
def isCatchable : Abrupt → Bool
  | .thrown _ => true
  | .raised .. => true
  | .tooDeep => false

/-- An attempt, what follows an exception, and what follows in any case. -/
def tryRule (E : Engine) (fr : Frame) (body : List Stmt) (param : Option Pattern)
    (handler finalizer : Option (List Stmt)) : Run Completion := do
  let guarded : Run Completion := do
    match ← (E.execBlock fr body).attempt, handler with
    | .error e, some h => E.handle fr param h e
    | .error e, none => Run.abrupt e
    | .ok c, _ => return c
  match finalizer with
  | none => return Completion.after (some .undefined) (← guarded)
  | some last =>
    match ← guarded.attempt with
    | .error e =>
      if isCatchable e then
        match ← E.execBlock fr last with
        | .normal _ => Run.abrupt e
        | c => return Completion.after (some .undefined) c
      else Run.abrupt e
    | .ok c =>
      match ← E.execBlock fr last with
      | .normal _ => return Completion.after (some .undefined) c
      | d => return Completion.after (some .undefined) d

/-- A declaration. A name declared for a block without a value is undefined from there on. -/
def declareRule (E : Engine) (fr : Frame) (kind : DeclKind) (bindings : List Slot) : Run Unit := do
  let _ ← bindings.mapM fun slot =>
    match kind, slot with
    | .var, .take _ none => pure ()
    | kind, .take p (some e) => do
      let v ← E.eval fr e
      E.store fr (some kind) patternDepth p v
    | kind, slot => E.storeSlot fr kind slot .undefined

/-- What a statement does. -/
def execRule (E : Engine) (fr : Frame) (s : Stmt) : Run Completion := do
  match s with
  | .empty => return .normal none
  | .expr e => return .normal (some (← E.eval fr e))
  | .block body => E.execBlock fr body
  | .declare kind bindings =>
    E.declareRule fr kind bindings
    return .normal none
  | .function _ => return .normal none
  | .ifElse c t e =>
    if (← E.eval fr c).isTrue then return Completion.after (some .undefined) (← E.exec fr t)
    else match e with
      | some e => return Completion.after (some .undefined) (← E.exec fr e)
      | none => return .normal (some .undefined)
  | .whileLoop c body => E.whileRule fr c body
  | .doWhile body c => E.doWhileRule fr body c
  | .forLoop init test step body => E.forRule fr init test step body
  | .forOf kind p e body => E.forOfRule fr kind p e body
  | .breakLoop => return .broke none
  | .continueLoop => return .continued none
  | .ret none => return .returned .undefined
  | .ret (some e) => return .returned (← E.eval fr e)
  | .throw e => Run.abrupt (.thrown (← E.eval fr e))
  | .tryCatch body param handler finalizer => E.tryRule fr body param handler finalizer

/-! ## Calls -/

/-- The names that a function declares for itself. -/
def functionBindings (f : Func) : List (String × Binding) :=
  let names := Slot.names f.params ++ ((f.rest.map Pattern.names).getD []) ++
    Stmt.varNamesOf f.body ++ (Stmt.functionsOf f.body).map Func.name
  names.eraseDups.map (fun x => (x, ⟨some .undefined, true⟩)) ++
    (f.body.flatMap Stmt.lexicalNames).map fun (x, mutable) => (x, ⟨none, mutable⟩)

/-- The body of a function with its arguments. -/
def enterFunction (E : Engine) (f : Func) (outer : Nat) (receiver : Value) (strict : Bool)
    (args : List Value) : Run Value := do
  let scope ← Run.openScope (functionBindings f) outer
  let fr : Frame := ⟨scope, receiver, strict⟩
  let _ ← f.params.zipIdx.mapM fun (slot, i) => E.storeSlot fr .letBinding slot (arg args i)
  match f.rest with
  | some p => do
    E.store fr (some .letBinding) patternDepth p (← newArray (args.drop f.params.length))
  | none => pure ()
  hoist fr f.body
  match ← E.execAll fr none f.body with
  | .returned v => return v
  | _ => return .undefined

/-- Runs a function of the script, unless too many are running. -/
def running (r : Run Value) : Run Value := do
  if depthLimit ≤ (← Run.reading (·.depth)) then Run.abrupt .tooDeep
  else
    Run.change fun m => { m with depth := m.depth + 1 }
    let ending ← r.attempt
    Run.change fun m => { m with depth := m.depth - 1 }
    match ending with
    | .ok v => return v
    | .error e => Run.abrupt e

/-- The receiver that a function sees. -/
def receiverFor (strict : Bool) (v : Value) : Value :=
  if !strict && v.isAbsent then .object Realm.globals else v

/-- A call. -/
def callRule (E : Engine) (f receiver : Value) (args : List Value) : Run Value := do
  match f with
  | .object at_ =>
    match ← Run.reading fun m => (m.obj at_).kind with
    | .function f scope kept strict =>
      let receiver := if f.kind = .arrow then kept else receiverFor strict receiver
      running (E.enterFunction f scope receiver strict args)
    | .native n => E.callNative n false receiver args
    | _ => Run.raise .typeError notCallable
  | _ => Run.raise .typeError notCallable

/-- A construction. -/
def constructRule (E : Engine) (f : Value) (args : List Value) : Run Value := do
  match f with
  | .object at_ =>
    let o ← Run.reading fun m => m.obj at_
    if !o.isConstructor then Run.raise .typeError "not a constructor"
    else
      match o.kind with
      | .function f scope _ strict =>
        let parent ← match ← E.get (.object at_) (Units.ofString "prototype") with
          | .object p => pure p
          | _ => pure Realm.objectParent
        let made ← Run.alloc ⟨.ordinary, some parent, []⟩
        match ← running (E.enterFunction f scope (.object made) strict args) with
        | .object r => return .object r
        | _ => return .object made
      | .native n => E.callNative n true .undefined args
      | _ => Run.raise .typeError "not a constructor"
  | _ => Run.raise .typeError "not a constructor"

end Engine

/-- The rules tied together. Every trip through the engine uses up one unit of the budget. -/
def engine (rounds : Nat) : Nat → Engine
  | 0 =>
    { call := fun _ _ _ => Run.stop .outOfBudget
      construct := fun _ _ => Run.stop .outOfBudget
      eval := fun _ _ => Run.stop .outOfBudget
      exec := fun _ _ => Run.stop .outOfBudget
      rounds }
  | n + 1 =>
    { call := fun f receiver args => (engine rounds n).callRule f receiver args
      construct := fun f args => (engine rounds n).constructRule f args
      eval := fun fr e => (engine rounds n).evalRule fr e
      exec := fun fr s => (engine rounds n).execRule fr s
      rounds }

end Snippet.Script
