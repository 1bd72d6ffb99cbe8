import Snippet.Guest.Methods
/-!
The attributes of values.

An attribute is looked for in the value, then in its class and the classes above it. A function that is
found in a class takes the value as its first argument.
-/

namespace Snippet.Guest

open Snippet.Text

/-- What exceptions of a class keep besides their arguments, by the classes that every program has. -/
def keptNames : List (String × List String) :=
  [("BaseException", ["__cause__", "__context__", "__suppress_context__"]), ("SystemExit", ["code"]),
    ("StopIteration", ["value"]), ("OSError", ["errno", "strerror", "filename"]), ("SyntaxError", ["msg"]),
    ("ImportError", ["msg"])]

/-- The methods of exceptions. -/
def exceptionMethods : List String := ["with_traceback", "add_note"]

/-- The name of a class without that of its module. -/
def ownName (x : String) : String := String.ofList ((x.toList.reverse.takeWhile (· != '.')).reverse)

/-- What comes before the last dot of a name. -/
def ownerName (x : String) : String :=
  String.ofList (((x.toList.reverse.dropWhile (· != '.')).drop 1).reverse)

namespace Engine

/-- What is said of an attribute that is not there. -/
def noAttribute {α : Type} (v : Value) (x : String) : Run α := do
  let m ← Run.reading id
  let whose := match v with
    | .ref at_ =>
      match m.obj at_ with
      | .klass name _ _ => "type object '" ++ name ++ "'"
      | _ => "'" ++ m.typeName v ++ "' object"
    | .cls name => "type object '" ++ name ++ "'"
    | v => "'" ++ m.typeName v ++ "' object"
  Run.raise "AttributeError" (whose ++ " has no attribute '" ++ x ++ "'")

/-- Is the function one that takes a value of a class as its first argument where it is found in the class? -/
def isMethodName (x : String) : Bool :=
  x.toList.contains '.' && !(["sys", "os", "time"].contains (ownerName x))

/-- What was found in a class, for a value of the class. -/
def boundTo (m : Machine) (v f : Value) : Value :=
  match f with
  | .ref at_ =>
    match m.obj at_ with
    | .func .. => .bound v f
    | _ => f
  | .asker _ => .bound v f
  | .native x => if isMethodName x then .bound v f else f
  | _ => f

/-- A method that a class has without the program's doing. -/
def givenMethod (m : Machine) (c : Value) (x : String) : Option Value :=
  let rule := ruleFor m c
  let isException := m.below c (.cls "BaseException")
  match x with
  | "__init__" =>
    some (.native ((if !isException then "object" else if rule == "KeyError" then "BaseException" else rule) ++
      ".__init__"))
  | "__str__" =>
    let plain := rule == "SystemExit" || rule == "StopIteration"
    some (.native ((if !isException then "object" else if plain then "BaseException" else rule) ++
      ".__str__"))
  | "__repr__" => some (.native ((if isException then "BaseException" else "object") ++ ".__repr__"))
  | _ => none

/-- Is something of that name kept with exceptions of a class? -/
def keeps (m : Machine) (c : Value) (x : String) : Bool :=
  keptNames.any fun k => k.2.contains x && m.below c (.cls k.1)

/-- What is kept with an exception: what has been set, or what stands for nothing. -/
def keptAttr (m : Machine) (c : Value) (args : List Value) (fields : Attrs) (x : String) : Option Value :=
  if x == "args" then some (.tuple args)
  else if keeps m c x then
    some (((fields.find? fun a => a.1 == x).map (·.2)).getD
      (if x == "__suppress_context__" then .bool false else .none))
  else none

/-- The names under which a class or a function knows its own name. -/
def isNameAttr (x : String) : Bool := x == "__name__" || x == "__qualname__"

/-- A method that comes with a value, if it is one of some. -/
def oneOf (methods : List String) (v : Value) (x : String) : Option Value :=
  if methods.contains x then some (.bound v (.native x)) else none

/-- The methods that a class has. -/
def methodsOfClass : String → List String
  | "str" => textMethods
  | "list" => listMethods
  | "dict" => dictMethods
  | "tuple" => tupleMethods
  | "int" => ["bit_length"]
  | "float" => ["is_integer"]
  | _ => []

/-- An attribute of a class. -/
def ofClass? (m : Machine) (c : Value) (x : String) : Option Value :=
  match x, m.classAttr? c x, c with
  | "__name__", _, c => some (.str (pts (ownName (m.className c))))
  | _, some v, _ => some v
  | "__qualname__", _, c => some (.str (pts (ownName (m.className c))))
  | "__module__", _, .ref _ => some (.str (pts "__main__"))
  | x, _, .cls name =>
    if (methodsOfClass name).contains x then some (.native (name ++ "." ++ x)) else givenMethod m c x
  | x, _, c => givenMethod m c x

/-- An attribute of an instance, given its class and what it holds itself. -/
def ofInstance? (m : Machine) (v c : Value) (attrs : Attrs) (x : String) : Option Value :=
  match attrs.find? fun a => a.1 == x with
  | some (_, a) => some a
  | none =>
    match m.classAttr? c x with
    | some f => some (boundTo m v f)
    | none => (givenMethod m c x).map (.bound v ·)

/-- An attribute of an exception. What the classes of the program say goes before what is kept with it. -/
def ofException? (m : Machine) (v c : Value) (args : List Value) (fields attrs : Attrs) (x : String) :
    Option Value :=
  let added := (attrs.find? fun a => a.1 == x).map (·.2)
  match m.classAttr? c x, keptAttr m c args fields x with
  | some f, _ => some (added.getD (boundTo m v f))
  | none, some a => some a
  | none, none =>
    (added.or (oneOf exceptionMethods v x)).or ((givenMethod m c x).map (.bound v ·))

/-- An attribute that a class above another one gives to a value. -/
def above? (m : Machine) (v owner : Value) (x : String) : Option Value :=
  let rest := ((m.lineage classDepth (m.classOf v)).dropWhile fun c => !Machine.sameClass owner c).drop 1
  match rest.findSome? fun c => m.ownAttr? c x with
  | some f => some (boundTo m v f)
  | none => (givenMethod m (m.classOf v) x).map (.bound v ·)

/-- An attribute of an object. -/
def ofObject? (m : Machine) (v : Value) (at_ : Nat) (x : String) : Option Value :=
  match m.obj at_ with
  | .module name _ => if x == "__name__" then some (.str (pts name)) else m.moduleAttr? at_ x
  | .instance c attrs => ofInstance? m v c attrs x
  | .exception c args fields attrs => ofException? m v c args fields attrs x
  | .klass .. => ofClass? m v x
  | .func f _ frame =>
    match x with
    | "__name__" => some (.str (pts f.name))
    | "__qualname__" => some (.str (pts (frame.path ++ f.name)))
    | _ => none
  | .list _ => oneOf listMethods v x
  | .dict _ => oneOf dictMethods v x
  | .view _ _ => none
  | .stream s =>
    match x, s with
    | "encoding", .null _ => some (.str (pts "utf-8"))
    | "encoding", _ => some .none
    | "closed", s => some (.bool s.isClosed)
    | x, s => oneOf (streamMethods s) v x
  | .cursor _ _ => oneOf ["__next__", "__iter__"] v x

/-- An attribute, if it is there. -/
def attr? (m : Machine) (v : Value) (x : String) : Option Value :=
  if x == "__class__" then some (m.classOf v)
  else
    match v with
    | .ref at_ => ofObject? m v at_ x
    | .cls _ => ofClass? m v x
    | .native name => if isNameAttr x then some (.str (pts (ownName name))) else none
    | .asker _ =>
      match x with
      | "__name__" => some (.str (pts "_input"))
      | "__qualname__" => some (.str (pts "_make_input.<locals>._input"))
      | _ => none
    | .bound self (.bound owner (.cls "super")) => above? m self owner x
    | .bound self f =>
      match x, f with
      | "__self__", _ => some self
      | "__func__", .ref _ => some f
      | "__name__", .native name => some (.str (pts (ownName name)))
      | "__name__", .ref at_ => ofObject? m f at_ x
      | _, _ => none
    | .str _ => oneOf textMethods v x
    | .tuple _ => oneOf tupleMethods v x
    | .float _ => oneOf ["is_integer"] v x
    | v =>
      match v.int? with
      | some n => if x == "real" || x == "numerator" then some (.int n) else oneOf ["bit_length"] v x
      | none => none

/-- Do the values of a class have an attribute that is left out? -/
def leftOutOf (m : Machine) (c : Value) (x : String) : Bool :=
  (m.lineage classDepth c).any fun
    | .cls name =>
      (leftOutAttrs name).contains x || leftOutFields.any fun f => f.1 == name && f.2.contains x
    | _ => false

/-- Could an attribute that was not found be one that is left out? -/
def isLeftOutAttr (m : Machine) (v : Value) (x : String) : Bool :=
  let ofValue := leftOutOf m (m.classOf v) x
  let ofClass := m.isClass v && (leftOutOf m v x || keeps m v x || exceptionMethods.contains x || x == "args")
  let always := match v with
    | .cls name => name.toList.contains '.'
    | .bound _ (.bound _ _) => true
    | .ref at_ =>
      match m.obj at_ with
      | .module .. => true
      | _ => false
    | _ => false
  isSpecialName x || ofValue || ofClass || always

/-- An attribute, if it is there. One that is left out goes beyond. -/
def findAttr (v : Value) (x : String) : Run (Option Value) := do
  match ← Run.reading fun m => attr? m v x with
  | some a => return some a
  | none => if ← Run.reading fun m => isLeftOutAttr m v x then Run.abrupt .beyond else return none

/-- An attribute. -/
def getAttr (v : Value) (x : String) : Run Value := do
  match ← findAttr v x with
  | some a => return a
  | none => noAttribute v x

/-- Can the program say of its classes what this name means? -/
def isClassName (m : Machine) (x : String) (a : Value) : Bool :=
  let isFunction := match a with
    | .ref at_ =>
      match m.obj at_ with
      | .func .. => true
      | _ => false
    | _ => false
  !isSpecialName x || (specialMethods.contains x && isFunction)

/-- Is a value an exception, or none? -/
def isExceptionOrNone (m : Machine) : Value → Bool
  | .none => true
  | v => m.below (m.classOf v) (.cls "BaseException")

/-- The machine with something that is kept with an exception set. Whoever sets a cause does without the
context. -/
def withKept (m : Machine) (exception : Value) (x : String) (a : Value) : Machine :=
  let m := m.setField exception x a
  if x == "__cause__" then m.setField exception "__suppress_context__" (.bool true) else m

/-- Sets something that is kept with an exception. -/
def setKept (exception : Value) (x : String) (a : Value) : Run Unit := do
  let set : Run Unit := Run.change fun m => withKept m exception x a
  let linked ← Run.reading fun m => isExceptionOrNone m a
  match x, a with
  | "__cause__", _ =>
    if linked then set
    else Run.raise "TypeError" "exception cause must be None or derive from BaseException"
  | "__context__", _ =>
    if linked then set
    else Run.raise "TypeError" "exception context must be None or derive from BaseException"
  | "__suppress_context__", .bool _ => set
  | "__suppress_context__", _ => Run.raise "TypeError" "attribute value type must be bool"
  | _, _ => set

/-- May a program change the attribute of a module? Others are relied on to run programs and to tell how they end. -/
def isOpenAttr (module x : String) : Bool :=
  match module with
  | "sys" => ["stdin", "stdout", "stderr", "__stdin__", "__stdout__", "__stderr__", "exit"].contains x
  | "builtins" =>
    x == "input" ||
      !(nativeNames ++ classNames ++ exceptionNames ++ leftOutNames ++
          ["IOError", "EnvironmentError", "Ellipsis"]).contains x && !isSpecialName x
  | module => module == "time"

/-- Sets an attribute. -/
def setAttr (v : Value) (x : String) (a : Value) : Run Unit := do
  let m ← Run.reading id
  let refused : Run Unit :=
    if (attr? m v x).isSome || isLeftOutAttr m v x then Run.abrupt .beyond else noAttribute v x
  if x == "__class__" || x == "__dict__" || x == "__traceback__" then Run.abrupt .beyond
  match v with
  | .ref at_ =>
    let put (o : Obj) : Run Unit := Run.change fun m => m.setObj at_ o
    match m.obj at_ with
    | .instance c attrs =>
      if Machine.sameClass c (.cls "object") then refused else put (.instance c (Machine.withAttr attrs x a))
    | .exception c args fields attrs =>
      match m.classAttr? c x, x with
      | some _, _ => put (.exception c args fields (Machine.withAttr attrs x a))
      | none, "args" =>
        match a with
        | .tuple vs => put (.exception c vs fields attrs)
        | _ => Run.abrupt .beyond
      | none, _ =>
        if keeps m c x then setKept v x a
        else if leftOutOf m c x then Run.abrupt .beyond
        else put (.exception c args fields (Machine.withAttr attrs x a))
    | .klass name bases attrs =>
      if isClassName m x a then put (.klass name bases (Machine.withAttr attrs x a)) else Run.abrupt .beyond
    | .module name _ =>
      if isOpenAttr name x then Run.change fun m => m.setModuleAttr at_ x (some a) else Run.abrupt .beyond
    | .func .. => Run.abrupt .beyond
    | .stream _ => Run.abrupt .beyond
    | _ => refused
  | .cls name =>
    Run.raise "TypeError" ("cannot set '" ++ x ++ "' attribute of immutable type '" ++ name ++ "'")
  | .asker _ => Run.abrupt .beyond
  | _ => refused

/-- Takes an attribute away. -/
def delAttr (v : Value) (x : String) : Run Unit := do
  let without (attrs : Attrs) : Attrs := attrs.filter fun a => a.1 != x
  let has (attrs : Attrs) : Bool := attrs.any fun a => a.1 == x
  let m ← Run.reading id
  let refused : Run Unit :=
    if (attr? m v x).isSome || isLeftOutAttr m v x then Run.abrupt .beyond else noAttribute v x
  match v with
  | .ref at_ =>
    let put (attrs : Attrs) (o : Obj) : Run Unit :=
      if has attrs then Run.change fun m => m.setObj at_ o else refused
    match m.obj at_ with
    | .instance c attrs => put attrs (.instance c (without attrs))
    | .exception c args fields attrs => put attrs (.exception c args fields (without attrs))
    | .klass name bases attrs =>
      if isSpecialName x then Run.abrupt .beyond else put attrs (.klass name bases (without attrs))
    | .module name _ =>
      match m.moduleAttr? at_ x with
      | some _ =>
        if isOpenAttr name x then Run.change fun m => m.setModuleAttr at_ x none else Run.abrupt .beyond
      | none => refused
    | .func .. => Run.abrupt .beyond
    | .stream _ => Run.abrupt .beyond
    | _ => refused
  | .cls name =>
    Run.raise "TypeError" ("cannot set '" ++ x ++ "' attribute of immutable type '" ++ name ++ "'")
  | .asker _ => Run.abrupt .beyond
  | _ => refused

/-! ## Methods of exceptions and objects -/

/-- Can exceptions of a class be made with arguments by name? -/
def takesNames (m : Machine) (c : Value) : Bool :=
  ["ImportError", "NameError", "AttributeError"].any fun x => m.below c (.cls x)

/-- Gives an exception its arguments, by the rules of a class that every program has. -/
def initException (at_ : Nat) (rule : String) (args : List Value) (named : Named) : Run Value := do
  match ← Run.obj at_ with
  | .exception c known fields attrs =>
    if !named.isEmpty && (← Run.reading fun m => takesNames m c) then Run.abrupt .beyond
    let name ← Run.reading fun m => m.className c
    noNames name named
    let set (args : List Value) (kept : Attrs) : Run Value := do
      let fields := kept.foldl (fun fields a => Machine.withAttr fields a.1 a.2) fields
      Run.change fun m => m.setObj at_ (.exception c args fields attrs)
      return .none
    let kept := Machine.keptBy rule args
    match rule with
    | "OSError" =>
      -- where the program does not say how, this has been done when the exception was made
      if (← Run.reading fun m => m.classAttr? c "__init__").isNone then set known []
      else if 3 < args.length then Run.abrupt .beyond
      else set (if args.length == 3 then args.take 2 else args) kept
    | "SyntaxError" => if args.length == 2 then Run.abrupt .beyond else set args kept
    | "UnicodeDecodeError" => Run.abrupt .beyond
    | "UnicodeEncodeError" => Run.abrupt .beyond
    | _ => set args kept
  | _ => Run.abrupt .beyond

/-- Adds a note to an exception. -/
def addNote (v : Value) (args : List Value) (named : Named) : Run Value := do
  noNames "BaseException.add_note" named
  match ← takesOne "BaseException.add_note" args with
  | .str p =>
    match ← Run.reading fun m => attr? m v "__notes__" with
    | none =>
      setAttr v "__notes__" (← Run.alloc (.list #[.str p]))
      return .none
    | some notes =>
      match notes, ← listItems? notes with
      | .ref at_, some vs =>
        Run.change fun m => m.setObj at_ (.list (vs ++ [Value.str p]).toArray)
        return .none
      | _, _ => Run.raise "TypeError" "Cannot add note: __notes__ is not a list"
  | note => Run.raise "TypeError" ("note must be a str, not '" ++ (← kindOf note) ++ "'")

/-- A method of an exception that a class gives to it without the program's doing. -/
def exceptionMethod (E : Engine) (at_ : Nat) (owner x : String) (args : List Value) (named : Named) :
    Run Value := do
  match x, ← Run.obj at_ with
  | "__init__", _ => initException at_ owner args named
  | "__str__", .exception _ known fields _ =>
    noNames (owner ++ ".__str__") named
    if !args.isEmpty then Run.abrupt .beyond
    return .str (← E.exceptionText owner known fields)
  | "__repr__", .exception c known _ _ =>
    if !args.isEmpty || !named.isEmpty then Run.abrupt .beyond
    let name ← Run.reading fun m => m.className c
    return .str (pts name ++ pts "(" ++ commaJoined (← known.mapM E.shown) ++ pts ")")
  | _, _ => Run.abrupt .beyond

/-- A method that every object has. -/
def objectMethod (E : Engine) (self : Value) (x : String) (args : List Value) (named : Named) :
    Run Value := do
  match x with
  | "__init__" =>
    if args.isEmpty && named.isEmpty then return .none
    else if (← Run.reading fun m => m.method? self "__init__").isNone then Run.abrupt .beyond
    else
      Run.raise "TypeError" "object.__init__() takes exactly one argument (the instance to initialize)"
  | "__str__" =>
    if args.isEmpty && named.isEmpty then return Value.str (← E.shown self) else Run.abrupt .beyond
  | _ => Run.abrupt .beyond

/-- A method that comes with a value. -/
def methodCall (E : Engine) (self : Value) (name : String) (args : List Value) (named : Named) :
    Run Value := do
  let owner := ownerName name
  let x := ownName name
  if owner == "object" then E.objectMethod self x args named
  else
    match self with
    | .str p => if owner == "" || owner == "str" then E.textMethod p x args named else Run.abrupt .beyond
    | .tuple items =>
      if owner == "" || owner == "tuple" then E.tupleMethod items x args named else Run.abrupt .beyond
    | .float d =>
      noNames ("float." ++ x) named
      takesNone ("float." ++ x) args
      if x == "is_integer" then return .bool (Decimal.isWhole d) else Run.abrupt .beyond
    | .ref at_ =>
      match ← Run.obj at_ with
      | .exception c _ _ _ =>
        match x with
        | "add_note" => addNote self args named
        | "with_traceback" =>
          match args, named with
          | [.none], [] => return self
          | _, _ => Run.abrupt .beyond
        | x =>
          if ← Run.reading fun m => m.below c (.cls owner) then E.exceptionMethod at_ owner x args named
          else Run.abrupt .beyond
      | .list items =>
        if owner == "" || owner == "list" then E.listMethod at_ items x args named else Run.abrupt .beyond
      | .dict items =>
        if owner == "" || owner == "dict" then E.dictMethod at_ items x args named else Run.abrupt .beyond
      | .stream s => E.streamMethod at_ s x args named
      | .cursor _ _ =>
        if !args.isEmpty || !named.isEmpty then Run.abrupt .beyond
        if x == "__iter__" then return self
        match ← E.next self with
        | some v => return v
        | none => Run.raiseWith "StopIteration" []
      | _ => Run.abrupt .beyond
    | v =>
      match v.int? with
      | some n =>
        noNames ("int." ++ x) named
        takesNone ("int." ++ x) args
        if x == "bit_length" then return .int (if n == 0 then 0 else n.natAbs.log2 + 1) else Run.abrupt .beyond
      | none => Run.abrupt .beyond

end Engine

end Snippet.Guest
