import Snippet.Guest.Attributes
/-!
The functions and classes that every program has, and the modules that it can import.

`Engine.nativeCall` carries out a function by its name and `Engine.construct` makes a value of a class.
`Machine.fresh` is the machine before any program has run: five objects have fixed places on it.
-/

namespace Snippet.Guest

open Snippet.Text

/-- The machine before any program has run. -/
def Machine.fresh : Machine :=
  let native (x : String) : String × Value := (x, .native x)
  let builtins : Attrs := nativeNames.map native ++ classNames.map (fun x => (x, .cls x)) ++
    exceptionNames.map (fun x => (x, .cls x)) ++
    [("IOError", .cls "OSError"), ("EnvironmentError", .cls "OSError"), ("__debug__", .bool true),
      ("Ellipsis", .ellipsis)]
  let sys : Attrs :=
    [("stderr", .ref complaintsPlace), ("__stdin__", .ref emptyPlace), ("__stdout__", .ref nowherePlace),
      ("__stderr__", .ref complaintsPlace), ("exit", .native "sys.exit"),
      ("platform", .str (pts "linux")), ("maxsize", .int 9223372036854775807),
      ("byteorder", .str (pts "little")), ("getrecursionlimit", .native "sys.getrecursionlimit")]
  { surroundings := ⟨some (.ref nowherePlace), some (.ref emptyPlace), some (.native "input")⟩
    objects := #[.module "sys" sys, .module "builtins" builtins, .stream (.null false),
      .stream (.null true), .stream (.null false),
      .module "io" [("StringIO", .cls "_io.StringIO"),
        ("UnsupportedOperation", .cls "UnsupportedOperation")],
      .module "os" [("_exit", .native "os._exit"), ("write", .native "os.write"),
        ("linesep", .str [10]), ("name", .str (pts "posix")), ("sep", .str [47])],
      .module "time" [("sleep", .native "time.sleep")]]
    scopes := #[]
    modules := [("sys", sysPlace), ("builtins", builtinsPlace), ("io", 5), ("os", 6), ("time", 7)]
    depth := 0
    serial := 0
    closed := false
    handling := [] }

namespace Engine

/-! ## Numbers -/

/-- What is said of a text that is no whole number. -/
def noWhole {α : Type} (base : Nat) (p : Points) : Run α :=
  Run.raiseWith "ValueError" [.str (pts ("invalid literal for int() with base " ++ toString base ++ ": ") ++
    (quotedText p).take 200)]

/-- Could a character be a digit of another script? -/
def isForeignDigit (c : Char) : Bool := 128 ≤ c.toNat && isNamePart c && !isNameStart c

/-- A text without what is blank at its ends. -/
def tidy (p : Points) : List Char :=
  let p := p.dropWhile isGap
  ((p.reverse.dropWhile isGap).reverse).map Char.ofNat

/-- The digits of a text, where single underscores may stand between them. -/
def plainDigits (isDigit : Char → Bool) : List Char → Option (List Char)
  | [] => none
  | [c] => if isDigit c then some [c] else none
  | c :: '_' :: rest => if isDigit c then (plainDigits isDigit rest).map (c :: ·) else none
  | c :: rest => if isDigit c then (plainDigits isDigit rest).map (c :: ·) else none

/-- The value of a digit up to 36. -/
def digitIn (c : Char) : Nat :=
  if c.isDigit then c.toNat - 48 else if c.isAlpha then c.toLower.toNat - 87 else 99

/-- The sign of a number and the rest of its text. -/
def signed : List Char → Bool × List Char
  | '-' :: rest => (true, rest)
  | '+' :: rest => (false, rest)
  | s => (false, s)

/-- The whole number that a text spells in a base. -/
def parseWhole (base : Nat) (p : Points) : Run Value := do
  let (negative, s) := signed (tidy p)
  if s.any isForeignDigit then Run.abrupt .beyond
  let s := match s with
    | '0' :: k :: rest =>
      let k := k.toLower
      if (k == 'x' && base == 16) || (k == 'o' && base == 8) || (k == 'b' && base == 2) then
        match rest with
        | '_' :: rest => rest
        | rest => rest
      else s
    | s => s
  match plainDigits (fun c => decide (digitIn c < base)) s with
  | none => noWhole base p
  | some ds =>
    if digitLimit < ds.length && !([2, 4, 8, 16, 32].contains base) then
      Run.raise "ValueError" ("Exceeds the limit (4300 digits) for integer string conversion: value has " ++
        toString ds.length ++
        " digits; use sys.set_int_max_str_digits() to increase the limit")
    let n : Nat := ds.foldl (fun n c => base * n + digitIn c) 0
    return .int (if negative then -(n : Int) else n)

/-- The double that a text spells. -/
def parseReal? (p : Points) : Option Float := do
  let (negative, s) := signed (tidy p)
  let withSign (x : Float) : Float := if negative then -x else x
  let word := String.ofList (s.map Char.toLower)
  if word == "inf" || word == "infinity" then return withSign Decimal.infinity
  if word == "nan" then return Decimal.notANumber
  let mantissa := s.takeWhile fun c => c != 'e' && c != 'E'
  let exponent ← match s.drop mantissa.length with
    | [] => some 0
    | _ :: rest => do
      let (down, rest) := signed rest
      let ds ← plainDigits Char.isDigit rest
      let n : Nat := Decimal.digitsValue ds
      some (if down then -(n : Int) else n)
  let whole := mantissa.takeWhile (· != '.')
  let fraction := (mantissa.drop whole.length).drop 1
  let optional (ds : List Char) : Option (List Char) :=
    if ds.isEmpty then some [] else plainDigits Char.isDigit ds
  let whole ← optional whole
  let fraction ← optional fraction
  if whole.isEmpty && fraction.isEmpty then none
  else
    return withSign (Decimal.nearest (Decimal.digitsValue (whole ++ fraction))
      (exponent - fraction.length))

/-- The whole number that a value is turned into. -/
def toWhole (E : Engine) (v : Value) : Run Value := do
  match v with
  | .str p => parseWhole 10 p
  | .bytes _ => Run.abrupt .beyond
  | .float x =>
    if x.isNaN then Run.raise "ValueError" "cannot convert float NaN to integer"
    else if x.isInf then Run.raise "OverflowError" "cannot convert float infinity to integer"
    else return .int (Decimal.truncate x)
  | v =>
    match v.int? with
    | some n => return .int n
    | none =>
      match ← Run.reading fun m => m.method? v "__int__" with
      | some f =>
        let r ← E.call f [v] []
        match r.int? with
        | some n => return .int n
        | none => Run.raise "TypeError" ("__int__ returned non-int (type " ++ (← kindOf r) ++ ")")
      | none =>
        Run.raise "TypeError"
          ("int() argument must be a string, a bytes-like object or a real number, not '" ++
            (← kindOf v) ++ "'")

/-- The double that a value is turned into. -/
def toReal (v : Value) : Run Value := do
  match v with
  | .str p =>
    if (tidy p).any isForeignDigit then Run.abrupt .beyond
    match parseReal? p with
    | some x => return .float x
    | none =>
      Run.raiseWith "ValueError" [.str (pts "could not convert string to float: " ++ quotedText p)]
  | .bytes _ => Run.abrupt .beyond
  | v =>
    match v.float? with
    | some x =>
      if x.isInf && v.isVast then Run.raise "OverflowError" "int too large to convert to float"
      else return .float x
    | none =>
      Run.raise "TypeError" ("float() argument must be a string or a real number, not '" ++
        (← kindOf v) ++ "'")

/-- The whole number nearest to a double, the even one of two. -/
def roundedWhole (x : Float) : Int :=
  let n := Decimal.truncate x
  let gap := (x - Decimal.ofInt n).abs
  let away := if x < 0.0 then n - 1 else n + 1
  if gap < 0.5 then n else if 0.5 < gap then away else if n % 2 == 0 then n else away

/-- A number rounded. -/
def rounded (args : List Value) : Run Value := do
  expects "round" 1 2 args
  let args := match args with
    | [v, .none] => [v]
    | args => args
  match args with
  | [.float x] =>
    if x.isNaN then Run.raise "ValueError" "cannot convert float NaN to integer"
    else if x.isInf then Run.raise "OverflowError" "cannot convert float infinity to integer"
    else return .int (roundedWhole x)
  | [.float x, n] =>
    let places ← wholeNumber n
    if places < 0 then Run.abrupt .beyond
    let spec : Spec :=
      { fill := 32, align := none, sign := none, alternate := false, width := 0, grouping := none
        precision := some places.toNat, kind := some 'f' }
    return .float ((parseReal? (← formatFloat spec "float" x)).getD x)
  | v :: rest =>
    match v.int?, rest with
    | some n, [] => return .int n
    | some n, k :: _ => if (← wholeNumber k) < 0 then Run.abrupt .beyond else return .int n
    | none, _ => Run.raise "TypeError" ("type " ++ (← kindOf v) ++ " doesn't define __round__ method")
  | [] => return .none

/-- A whole number in a base, with the mark of the base. -/
def inBase (base : Nat) (mark : String) (v : Value) : Run Value := do
  let n ← wholeNumber v
  return .str (pts ((if n < 0 then "-" else "") ++ mark ++ String.ofList (Nat.toDigits base n.natAbs)))

/-! ## Going through items -/

/-- The least or the greatest of some values. -/
def extreme (E : Engine) (name : String) (op : CompareOp) (args : List Value) (named : Named) :
    Run Value := do
  let get (x : String) : Option Value := (named.find? fun a => a.1 == x).map (·.2)
  if (named.any fun a => a.1 != "key" && a.1 != "default") || ((get "default").isSome && 1 < args.length) then
    Run.abrupt .beyond
  let c ← match args with
    | [] => Run.raise "TypeError" (name ++ " expected at least 1 argument, got 0")
    | [v] => E.cursor v
    | vs => E.cursor (.tuple vs)
  let keyOf (v : Value) : Run Value :=
    match (get "key").getD .none with
    | .none => return v
    | f => E.call f [v] []
  let best ← Run.repeating (fun (best : Option (Value × Value)) => do
    match ← E.next c with
    | none => return .inr best
    | some v =>
      let k ← keyOf v
      match best with
      | none => return .inl (some (k, v))
      | some (most, _) =>
        if ← E.compareOp op k most then return .inl (some (k, v)) else return .inl best) E.rounds none
  match best, get "default" with
  | some (_, v), _ => return v
  | none, some v => return v
  | none, none => Run.raise "ValueError" (name ++ "() arg is an empty sequence")

/-- The sum of the items of a value. -/
def total (E : Engine) (args : List Value) (named : Named) : Run Value := do
  let start ← match args, named with
    | [_], [] => pure (Value.int 0)
    | [_, v], [] => pure v
    | [_], [("start", v)] => pure v
    | _, _ => Run.abrupt .beyond
  let c ← E.cursor (args[0]?.getD .none)
  match start with
  | .str _ => Run.raise "TypeError" "sum() can't sum strings [use ''.join(seq) instead]"
  | .bytes _ => Run.raise "TypeError" "sum() can't sum bytes [use b''.join(seq) instead]"
  | _ =>
    Run.repeating (fun (acc : Value) => do
      match ← E.next c with
      | none => return .inr acc
      | some v => return .inl (← E.binary .add "+" acc v)) E.rounds start

/-- How many items a value has. -/
def lengthOf (E : Engine) (v : Value) : Run Value := do
  let noLength : Run Value := do
    Run.raise "TypeError" ("object of type '" ++ (← kindOf v) ++ "' has no len()")
  match v with
  | .str p => return .int p.length
  | .bytes p => return .int p.length
  | .tuple vs => return .int vs.length
  | .range a b s => return .int (rangeLength a b s)
  | .ref at_ =>
    match ← Run.obj at_ with
    | .list vs => return .int vs.size
    | .dict items => return .int items.length
    | .view dict _ => return .int ((← dictItems? (.ref dict)).getD []).length
    | _ =>
      match ← Run.reading fun m => m.method? v "__len__" with
      | some f => return .int (← lengthFrom (← E.call f [v] []))
      | none => noLength
  | _ => noLength

/-- The items of a value, the last one first. -/
def backwards (E : Engine) (v : Value) : Run Value := do
  let kind? : Option String ← match v with
    | .str _ => pure (some "reversed")
    | .bytes _ => pure (some "reversed")
    | .tuple _ => pure (some "reversed")
    | .range .. => pure (some "range_iterator")
    | .ref at_ => do
      match ← Run.obj at_ with
      | .list _ => pure (some "list_reverseiterator")
      | .dict _ => pure (some "dict_reversekeyiterator")
      | .view _ _ => Run.abrupt .beyond
      | _ =>
        if (← Run.reading fun m => m.method? v "__getitem__").isSome then Run.abrupt .beyond else pure none
    | _ => pure none
  match kind? with
  | some kind => do Run.alloc (.cursor kind (.items (← E.items v).reverse))
  | none => Run.raise "TypeError" ("'" ++ (← kindOf v) ++ "' object is not reversible")

/-- Is any item true, or are all? -/
def quantified (E : Engine) (stopAt : Bool) (v : Value) : Run Value := do
  let c ← E.cursor v
  Run.repeating (fun (_ : Unit) => do
    match ← E.next c with
    | none => return .inr (.bool !stopAt)
    | some v =>
      let t ← E.truth v
      if t == stopAt then return .inr (.bool stopAt) else return .inl ()) E.rounds ()

/-! ## Classes -/

/-- Is one of the classes, alone or in a tuple, among some? -/
def anyClass (test : Value → Run Bool) (complaint : String) : Nat → Value → Run Bool
  | 0, _ => Run.abrupt .beyond
  | n + 1, .tuple cs => cs.anyM (anyClass test complaint n)
  | _ + 1, .native x => if classLike.contains x then Run.abrupt .beyond else Run.raise "TypeError" complaint
  | _ + 1, c => do
    if ← Run.reading fun m => m.isClass c then test c else Run.raise "TypeError" complaint

/-- Is a value of a class, or of one of several? -/
def isOf (v c : Value) : Run Value := do
  return .bool (← anyClass (fun c => Run.reading fun m => m.below (m.classOf v) c)
    "isinstance() arg 2 must be a type, a tuple of types, or a union" classDepth c)

/-- Is a class below another one, or below one of several? -/
def isBelow (d c : Value) : Run Value := do
  if !(← Run.reading fun m => m.isClass d) then
    Run.raise "TypeError" "issubclass() arg 1 must be a class"
  return .bool (← anyClass (fun c => Run.reading fun m => m.below d c)
    "issubclass() arg 2 must be a class, a tuple of classes, or a union" classDepth c)

/-- Can a value be called? -/
def canCall (m : Machine) : Value → Bool
  | .cls _ => true
  | .native _ => true
  | .asker _ => true
  | .bound _ (.bound _ _) => false
  | .bound _ _ => true
  | .ref at_ =>
    match m.obj at_ with
    | .func .. => true
    | .klass .. => true
    | _ => (m.method? (.ref at_) "__call__").isSome
  | _ => false

/-- The class that stands for an error number of the system. -/
def systemError : Int → String
  | 1 => "PermissionError"
  | 2 => "FileNotFoundError"
  | 3 => "ProcessLookupError"
  | 4 => "InterruptedError"
  | 10 => "ChildProcessError"
  | 11 => "BlockingIOError"
  | 13 => "PermissionError"
  | 17 => "FileExistsError"
  | 20 => "NotADirectoryError"
  | 21 => "IsADirectoryError"
  | 32 => "BrokenPipeError"
  | 103 => "ConnectionAbortedError"
  | 104 => "ConnectionResetError"
  | 108 => "BrokenPipeError"
  | 110 => "TimeoutError"
  | 111 => "ConnectionRefusedError"
  | 114 => "BlockingIOError"
  | 115 => "BlockingIOError"
  | _ => "OSError"

/-- A new exception of a class, with what the classes that every program has keep of its arguments; they may keep
nothing yet. -/
def exceptionOf (c : Value) (args : List Value) (named : Named) (keeping : Bool) : Run Value := do
  let m ← Run.reading id
  let rule := ruleFor m c
  let fails := rule == "UnicodeDecodeError" || rule == "UnicodeEncodeError"
  if keeping && !named.isEmpty && takesNames m c then Run.abrupt .beyond
  if keeping then noNames (m.className c) named
  if fails && args.length != 5 then
    Run.raise "TypeError" ("function takes exactly 5 arguments (" ++ toString args.length ++ " given)")
  let odd := match rule, args.length with
    | "OSError", 3 => m.below c (.cls "BlockingIOError")
    | "OSError", 4 => true
    | "OSError", 5 => true
    | "SyntaxError", 2 => true
    | _, _ => fails
  if keeping && odd || fails then Run.abrupt .beyond
  if keeping then
    let known := if rule == "OSError" && args.length == 3 then args.take 2 else args
    Run.alloc (.exception c known (Machine.keptBy rule args) [])
  else Run.alloc (.exception c (if rule == "OSError" then [] else args) [] [])

/-- An exception of a class that every program has. -/
def newException (kind : String) (args : List Value) (named : Named) : Run Value :=
  let kind := match kind, args.head?.bind Value.int?, args.length with
    | "OSError", some n, k => if 2 ≤ k && k ≤ 5 then systemError n else kind
    | _, _, _ => kind
  exceptionOf (.cls kind) args named true

/-- A value of a class that the program defines. -/
def newInstance (E : Engine) (c : Value) (args : List Value) (named : Named) : Run Value := do
  let isException ← Run.reading fun m => m.isExceptionClass c
  match ← Run.reading fun m => m.classAttr? c "__init__" with
  | some f =>
    let self ← if isException then exceptionOf c args named false else Run.alloc (.instance c [])
    match ← E.call f (self :: args) named with
    | .none => return self
    | v => Run.raise "TypeError" ("__init__() should return None, not '" ++ (← kindOf v) ++ "'")
  | none =>
    if isException then exceptionOf c args named true
    else if args.isEmpty && named.isEmpty then Run.alloc (.instance c [])
    else
      let name ← Run.reading fun m => m.className c
      Run.raise "TypeError" (name ++ "() takes no arguments")

/-- A dictionary of pairs, and of arguments by name. -/
def newDict (E : Engine) (args : List Value) (named : Named) : Run Value := do
  let at_ ← Run.changing fun m => m.alloc (.dict [])
  E.updateDict "dict" at_ args named
  return .ref at_

/-- A value of a class that every program has. -/
def construct (E : Engine) (kind : String) (args : List Value) (named : Named) : Run Value := do
  if exceptionNames.contains kind || kind == "UnsupportedOperation" then newException kind args named
  else if kind == "dict" then E.newDict args named
  else if kind == "object" then
    if args.isEmpty && named.isEmpty then Run.alloc (.instance (.cls kind) [])
    else Run.raise "TypeError" "object() takes no arguments"
  else if ["str", "int", "_io.StringIO", "type", "super"].contains kind && !named.isEmpty then Run.abrupt .beyond
  else
    noNames kind named
    if ["float", "bool", "list", "tuple"].contains kind then expects kind 0 1 args
    match kind, args with
    | "str", [] => return .str []
    | "str", [v] => do return .str (← E.text v)
    | "int", [] => return .int 0
    | "int", [v] => E.toWhole v
    | "int", [v, b] =>
      let base ← wholeNumber b
      match v with
      | .str p => if 2 ≤ base && base ≤ 36 then parseWhole base.toNat p else Run.abrupt .beyond
      | .bytes _ => Run.abrupt .beyond
      | _ => Run.raise "TypeError" "int() can't convert non-string with explicit base"
    | "float", [] => return .float 0.0
    | "float", v :: _ => toReal v
    | "bool", [] => return .bool false
    | "bool", v :: _ => do return .bool (← E.truth v)
    | "bytes", [] => return .bytes []
    | "list", [] => Run.alloc (.list #[])
    | "list", v :: _ => do Run.alloc (.list (← E.items v).toArray)
    | "tuple", [] => return .tuple []
    | "tuple", v :: _ => do return .tuple (← E.items v)
    | "range", args =>
      expects "range" 1 3 args
      match ← args.mapM wholeNumber with
      | [b] => return .range 0 b 1
      | [a, b] => return .range a b 1
      | [_, _, 0] => Run.raise "ValueError" "range() arg 3 must not be zero"
      | [a, b, s] => return .range a b s
      | _ => return .none
    | "type", [v] => Run.reading fun m => m.classOf v
    | "_io.StringIO", [] => Run.alloc (.stream (.buffer [] 0))
    | "_io.StringIO", [.none] => Run.alloc (.stream (.buffer [] 0))
    | "_io.StringIO", [.str p] => Run.alloc (.stream (.buffer p 0))
    | "_io.StringIO", [v] =>
      Run.raise "TypeError" ("initial_value must be str or None, not " ++ (← kindOf v))
    | "super", [] => Run.raise "RuntimeError" "super(): no arguments"
    | _, _ => Run.abrupt .beyond

/-! ## Output and input -/

/-- Puts a text into whatever a program uses as an output. -/
def put (E : Engine) (file : Value) (text : Run Points) : Run Unit := do
  let f ← getAttr file "write"
  let p ← text
  match file, f with
  | .ref at_, .bound _ (.native _) =>
    match ← Run.obj at_ with
    | .stream s => do
      let _ ← writeTo at_ s (.str p)
    | _ => do
      let _ ← E.call f [.str p] []
  | _, f => do
    let _ ← E.call f [.str p] []

/-- A text that stands between or after what is printed. -/
def printed (what : String) (usual : Points) : Option Value → Run Points
  | none => return usual
  | some .none => return usual
  | some (.str p) => return p
  | some v => do
    Run.raise "TypeError" (what ++ " must be None or a string, not " ++ (← kindOf v))

/-- Prints values. -/
def print (E : Engine) (args : List Value) (named : Named) : Run Value := do
  let get (x : String) : Option Value := (named.find? fun a => a.1 == x).map (·.2)
  match named.find? fun a => !(["sep", "end", "file", "flush"].contains a.1) with
  | some (x, _) =>
    Run.raise "TypeError" ("'" ++ x ++ "' is an invalid keyword argument for print()")
  | none =>
    let flush ← E.truth ((get "flush").getD .none)
    let file ← match (get "file").getD .none with
      | .none => do
        match ← Run.reading fun m => m.moduleAttr? sysPlace "stdout" with
        | some v => pure v
        | none => Run.raise "RuntimeError" "lost sys.stdout"
      | v => pure v
    match file with
    | .none => return .none
    | file =>
      let sep ← printed "sep" [32] (get "sep")
      let stop ← printed "end" [10] (get "end")
      let _ ← args.zipIdx.mapM fun (v, i) => do
        if i != 0 then E.put file (pure sep)
        E.put file (E.text v)
      E.put file (pure stop)
      if flush then
        let f ← getAttr file "flush"
        let _ ← E.call f [] []
      return .none

/-- Puts the echo of a line into the captured output, if that is open. -/
def echoLine (label line : Points) : Run Unit := do
  if ← Run.reading (·.closed) then
    let _ ← closedStream false
  else Run.write (echoOf label line)

/-- Asks for a line under a prompt. For the echo of the line the prompt is put into words once more. -/
def askUnder (E : Engine) (prompt : Value) : Run Value := do
  let p ← E.text prompt
  match ← answered (fun v => return v) (← Run.ask (.input p)) with
  | .none => return .str []
  | v =>
    echoLine (← E.formatted prompt []) (← E.formatted v [])
    return v

/-- Asks for a line under the prompt that is given, in the request of that number. -/
def input (E : Engine) (serial : Nat) (args : List Value) (named : Named) : Run Value := do
  let bound ← bindArguments "_make_input.<locals>._input" ["prompt"] none [some (.str [])] args named
  if serial != (← Run.reading (·.serial)) then Run.abrupt .beyond
  else E.askUnder ((bound.head?.map (·.2)).getD (.str []))

/-! ## Functions -/

/-- A function that takes one value. -/
def oneValue? (E : Engine) (name : String) : Option (Value → Run Value) :=
  match name with
  | "repr" => some fun v => do return .str (← E.shown v)
  | "ascii" => some fun v => do return .str (← asciiOf (← E.shown v))
  | "len" => some E.lengthOf
  | "any" => some (E.quantified true)
  | "all" => some (E.quantified false)
  | "hex" => some (inBase 16 "0x")
  | "bin" => some (inBase 2 "0b")
  | "oct" => some (inBase 8 "0o")
  | "callable" => some fun v => do return .bool (← Run.reading fun m => canCall m v)
  | "reversed" => some E.backwards
  | "abs" => some fun v => do
    match v, v.int? with
    | .float x, _ => return .float x.abs
    | _, some n => return .int n.natAbs
    | _, none => Run.raise "TypeError" ("bad operand type for abs(): '" ++ (← kindOf v) ++ "'")
  | "chr" => some fun v => do
    let n ← wholeNumber v
    if 2147483648 ≤ n.natAbs then Run.abrupt .beyond
    else if 0 ≤ n && n < 0x110000 then return .str [n.toNat]
    else Run.raise "ValueError" "chr() arg not in range(0x110000)"
  | "ord" => some fun v => do
    let tooLong (p : Points) : Run Value :=
      Run.raise "TypeError" ("ord() expected a character, but string of length " ++
        toString p.length ++ " found")
    match v with
    | .str [n] => return .int n
    | .bytes [n] => return .int n
    | .str p => tooLong p
    | .bytes p => tooLong p
    | v => Run.raise "TypeError" ("ord() expected string of length 1, but " ++ (← kindOf v) ++ " found")
  | _ => none

/-- The name of an attribute. -/
def attrName (v : Value) : Run String := do
  match v with
  | .str p =>
    match p.toString? with
    | some x => return x
    | none => Run.abrupt .beyond
  | v => Run.raise "TypeError" ("attribute name must be string, not '" ++ (← kindOf v) ++ "'")

/-- An attribute by its name, or what stands in for it. -/
def attrOr (v name : Value) (fallback : Option Value) : Run Value := do
  let x ← attrName name
  match ← findAttr v x, fallback with
  | some a, _ => return a
  | none, some d => return d
  | none, none => noAttribute v x

/-- The next item of something that is gone through; where there is none, the exception that says so, if the program
has made it. -/
def nextItem (E : Engine) (c : Value) : Run (Except (Option Value) Value) := do
  let ownNext ← Run.reading fun m => m.method? c "__next__"
  match ownNext with
  | some f =>
    match ← Run.attempt (E.call f [c] []) with
    | .ok v => return .ok v
    | .error (.raised e) =>
      if ← Run.reading fun m => m.below (m.classOf e) (.cls "StopIteration") then return .error (some e)
      else Run.abrupt (.raised e)
    | .error e => Run.abrupt e
  | none =>
    if ← isCursor c then
      match ← E.next c with
      | some v => return .ok v
      | none => return .error none
    else notIterator c

/-- Ends the program at its own wish. What reads the input is closed before. -/
def quit (args : List Value) (named : Named) : Run Value := do
  let bound ← bindArguments "Quitter.__call__" ["self", "code"] none [none, some .none] (.none :: args) named
  match ← Run.reading (·.surroundings.input) with
  | some (.ref at_) =>
    match ← Run.obj at_ with
    | .stream (.host _) =>
      Run.raiseWith "SystemExit" [((bound.find? fun b => b.1 == "code").map (·.2)).getD .none]
    | _ => Run.abrupt .beyond
  | _ => Run.abrupt .beyond

/-- Functions of several values that can have arguments by name. -/
def takesNamed : List String := ["min", "max", "sum", "sorted", "enumerate", "exit", "quit"]

/-- A function of several values. -/
def severalValues (E : Engine) (name : String) (args : List Value) (named : Named) : Run Value := do
  let arg (i : Nat) : Value := args[i]?.getD .none
  if !takesNamed.contains name && !named.isEmpty then Run.abrupt .beyond
  match name with
  | "min" => E.extreme name .lt args named
  | "max" => E.extreme name .gt args named
  | "sum" => E.total args named
  | "sorted" =>
    expects name 1 1 args
    let (backwards, keyed) ← E.sortKeys (← E.items (arg 0)) named
    Run.alloc (.list (← E.sorted (fun _ => return ()) backwards keyed).toArray)
  | "enumerate" =>
    let (v, start) ← match args, named with
      | [v], [] => pure (v, Value.int 0)
      | [v, n], [] => pure (v, n)
      | [v], [("start", n)] => pure (v, n)
      | _, _ => Run.abrupt .beyond
    let n ← wholeNumber start
    Run.alloc (.cursor name (.counted n (← E.cursor v)))
  | "zip" => do Run.alloc (.cursor name (.zipped (← args.mapM E.cursor)))
  | "map" =>
    if args.length < 2 then Run.raise "TypeError" "map() must have at least two arguments."
    Run.alloc (.cursor name (.mapped (arg 0) (← (args.drop 1).mapM E.cursor)))
  | "filter" =>
    expects name 2 2 args
    Run.alloc (.cursor name (.filtered (arg 0) (← E.cursor (arg 1))))
  | "round" => rounded args
  | "pow" =>
    match args with
    | [a, b] => E.binary .pow BinOp.pow.sign a b
    | [.int a, .int b, .int n] =>
      if b < 0 then Run.abrupt .beyond
      if n == 0 then Run.raise "ValueError" "pow() 3rd argument cannot be 0"
      match ← intPower a b.toNat with
      | .int p => return .int (p.fmod n)
      | v => return v
    | _ => Run.abrupt .beyond
  | "divmod" =>
    expects name 2 2 args
    match (arg 0).int?, (arg 1).int? with
    | some _, some 0 => Run.raise "ZeroDivisionError" "integer division or modulo by zero"
    | some a, some b => return .tuple [.int (a.fdiv b), .int (a.fmod b)]
    | _, _ =>
      if (arg 0).float?.isSome && (arg 1).float?.isSome then Run.abrupt .beyond
      else unsupported "divmod()" (arg 0) (arg 1)
  | "isinstance" =>
    expects name 2 2 args
    isOf (arg 0) (arg 1)
  | "issubclass" =>
    expects name 2 2 args
    isBelow (arg 0) (arg 1)
  | "getattr" =>
    expects name 2 3 args
    attrOr (arg 0) (arg 1) args[2]?
  | "hasattr" =>
    expects name 2 2 args
    return .bool (← findAttr (arg 0) (← attrName (arg 1))).isSome
  | "setattr" =>
    expects name 3 3 args
    setAttr (arg 0) (← attrName (arg 1)) (arg 2)
    return .none
  | "delattr" =>
    expects name 2 2 args
    delAttr (arg 0) (← attrName (arg 1))
    return .none
  | "iter" =>
    expects name 1 2 args
    if args.length == 2 then Run.abrupt .beyond else E.cursor (arg 0)
  | "next" =>
    expects name 1 2 args
    match ← E.nextItem (arg 0), args[1]? with
    | .ok v, _ => return v
    | .error _, some v => return v
    | .error (some e), none => Run.abrupt (.raised e)
    | .error none, none => Run.raiseWith "StopIteration" []
  | "format" =>
    expects name 1 2 args
    match args.drop 1 with
    | [] => return .str (← E.formatted (arg 0) [])
    | .str p :: _ => return .str (← E.formatted (arg 0) p)
    | v :: _ => Run.raise "TypeError" ("format() argument 2 must be str, not " ++ (← kindOf v))
  | "exit" => quit args named
  | "quit" => quit args named
  | "sys.exit" =>
    expects "exit" 0 1 args
    match args with
    | [.tuple vs] => Run.raiseWith "SystemExit" vs
    | [.none] => Run.raiseWith "SystemExit" []
    | [v] =>
      if ← Run.reading fun m => m.below (m.classOf v) (.cls "SystemExit") then Run.abrupt .beyond
      else Run.raiseWith "SystemExit" args
    | args => Run.raiseWith "SystemExit" args
  | "sys.getrecursionlimit" =>
    takesNone name args
    return .int 1000
  | "os._exit" =>
    match args with
    | [v] =>
      let n ← wholeNumber v
      if 2147483648 ≤ n.natAbs then Run.abrupt .beyond else Run.abrupt (.killed (n.fmod 256).toNat)
    | _ => Run.abrupt .beyond
  | "os.write" =>
    match args with
    | [fd, data] =>
      let fd ← wholeNumber fd
      -- the descriptors of the program lead nowhere; another one could be that of the protocol
      match data with
      | .bytes p => if 0 ≤ fd && fd ≤ 2 then return .int p.length else Run.abrupt .beyond
      | v => Run.raise "TypeError" ("a bytes-like object is required, not '" ++ (← kindOf v) ++ "'")
    | _ => Run.abrupt .beyond
  | "time.sleep" =>
    match args with
    | [.int n] => if 0 ≤ n then return .none else Run.raise "ValueError" "sleep length must be non-negative"
    | [.float x] => if 0.0 ≤ x then return .none else Run.abrupt .beyond
    | _ => Run.abrupt .beyond
  | name =>
    match args with
    | self :: rest => if isMethodName name then E.methodCall self name rest named else Run.abrupt .beyond
    | [] => Run.abrupt .beyond

/-- A function that every program has. -/
def nativeCall (E : Engine) (name : String) (args : List Value) (named : Named) : Run Value := do
  if name == "print" then E.print args named
  else
    match E.oneValue? name with
    | some f =>
      noNames name named
      f (← takesOne name args)
    | none => E.severalValues name args named

end Engine

end Snippet.Guest
