import Snippet.Guest.Show
import Snippet.Decimal.Reading
/-!
Arithmetic, comparison and going through items.
-/

namespace Snippet.Guest

open Snippet.Text

/-- The whole number that a value is. -/
def Value.int? : Value → Option Int
  | .int n => some n
  | .bool b => some (if b then 1 else 0)
  | _ => Option.none

/-- The double that a value stands for in arithmetic with doubles. -/
def Value.float? : Value → Option Float
  | .float x => some x
  | .int n => some (Decimal.ofInt n)
  | .bool b => some (if b then 1.0 else 0.0)
  | _ => Option.none

/-- The whole numbers up to which doubles hold all of them. -/
def exactLimit : Nat := 9007199254740992

/-- Is the value a whole number that a double may not hold? -/
def Value.isVast : Value → Bool
  | .int n => exactLimit < n.natAbs
  | _ => false

/-- The sign of an operator in complaints. -/
def BinOp.sign : BinOp → String
  | .add => "+"
  | .sub => "-"
  | .mul => "*"
  | .div => "/"
  | .floorDiv => "//"
  | .mod => "%"
  | .pow => "** or pow()"
  | .bitAnd => "&"
  | .bitOr => "|"
  | .bitXor => "^"
  | .shiftLeft => "<<"
  | .shiftRight => ">>"

/-- The method by which a class defines an operator. -/
def BinOp.method : BinOp → String
  | .add => "__add__"
  | .sub => "__sub__"
  | .mul => "__mul__"
  | .div => "__truediv__"
  | .floorDiv => "__floordiv__"
  | .mod => "__mod__"
  | .pow => "__pow__"
  | .bitAnd => "__and__"
  | .bitOr => "__or__"
  | .bitXor => "__xor__"
  | .shiftLeft => "__lshift__"
  | .shiftRight => "__rshift__"

/-- The sign of a comparison in complaints. -/
def CompareOp.sign : CompareOp → String
  | .lt => "<"
  | .le => "<="
  | .gt => ">"
  | .ge => ">="
  | .eq => "=="
  | .ne => "!="
  | .isIn => "in"
  | .notIn => "not in"
  | .is => "is"
  | .isNot => "is not"

/-! ## Bits -/

/-- An operation on whole numbers bit by bit, with negative numbers as endless rows of ones. -/
def bitwise (op : Bool → Bool → Bool) (a b : Int) : Int :=
  let width := max a.natAbs.log2 b.natAbs.log2 + 2
  let size : Int := Nat.pow 2 width
  let low (n : Int) : Nat := (n % size).toNat
  let x := Nat.bitwise op (low a) (low b)
  if op (a < 0) (b < 0) then (x : Int) - size else x

/-! ## Arithmetic -/

/-- The most bits that a whole number may grow to. -/
def bitLimit : Nat := 10000000

/-- The sum of powers that a power of a whole number comes to, if it is not too large. -/
def intPower (a : Int) (n : Nat) : Run Value :=
  if a.natAbs ≤ 1 || (a.natAbs.log2 + 1) * n ≤ bitLimit then return .int (Int.pow a n)
  else Run.abrupt .beyond

/-- A power of doubles, where it is one again. -/
def floatPower (a b : Float) : Run Value :=
  let p := Float.pow a b
  if a == 0.0 && b < 0.0 then
    Run.raise "ZeroDivisionError" "0.0 cannot be raised to a negative power"
  else if p.isNaN || p.isInf then Run.abrupt .beyond
  else return .float p

/-- An operation on whole numbers. -/
def intOp (op : BinOp) (a b : Int) : Run Value :=
  match op with
  | .add => return .int (a + b)
  | .sub => return .int (a - b)
  | .mul => return .int (a * b)
  | .div =>
    if b == 0 then Run.raise "ZeroDivisionError" "division by zero"
    else if exactLimit < a.natAbs || exactLimit < b.natAbs then Run.abrupt .beyond
    else return .float (Decimal.ofInt a / Decimal.ofInt b)
  | .floorDiv =>
    if b == 0 then Run.raise "ZeroDivisionError" "integer division or modulo by zero"
    else return .int (a.fdiv b)
  | .mod =>
    if b == 0 then Run.raise "ZeroDivisionError" "integer modulo by zero" else return .int (a.fmod b)
  | .pow =>
    if b < 0 then floatPower (Decimal.ofInt a) (Decimal.ofInt b) else intPower a b.toNat
  | .bitAnd => return .int (bitwise (· && ·) a b)
  | .bitOr => return .int (bitwise (· || ·) a b)
  | .bitXor => return .int (bitwise Bool.xor a b)
  | .shiftLeft =>
    if b < 0 then Run.raise "ValueError" "negative shift count"
    else if bitLimit < b.toNat then Run.abrupt .beyond
    else return .int (a * Nat.pow 2 b.toNat)
  | .shiftRight =>
    if b < 0 then Run.raise "ValueError" "negative shift count"
    else return .int (a.fdiv (Nat.pow 2 (min b.toNat bitLimit)))

/-- The largest whole number not above a quotient, and what is left, where these can be told from whole
numbers. -/
def floatDivMod (a b : Float) : Run (Float × Float) := do
  let small (x : Float) : Bool := Decimal.isWhole x && x.abs < 9007199254740992.0
  if small a && small b && !Decimal.isNegative a && 0.0 < b then
    let n := Decimal.truncate a
    let d := Decimal.truncate b
    return (Decimal.ofInt (n.fdiv d), Decimal.ofInt (n.fmod d))
  else Run.abrupt .beyond

/-- An operation on doubles, if there is one. -/
def floatOp? (op : BinOp) (a b : Float) : Option (Run Value) :=
  match op with
  | .add => some (return .float (a + b))
  | .sub => some (return .float (a - b))
  | .mul => some (return .float (a * b))
  | .div => some (
    if b == 0.0 then Run.raise "ZeroDivisionError" "float division by zero" else return .float (a / b))
  | .floorDiv => some (
    if b == 0.0 then Run.raise "ZeroDivisionError" "float floor division by zero"
    else do return .float (← floatDivMod a b).1)
  | .mod => some (
    if b == 0.0 then Run.raise "ZeroDivisionError" "float modulo"
    else do return .float (← floatDivMod a b).2)
  | .pow => some (floatPower a b)
  | _ => none

/-- A sequence so many times over. -/
def repeated {α : Type} (xs : List α) (n : Int) : Run (List α) :=
  if bitLimit < xs.length * n.toNat then Run.abrupt .beyond
  else return (List.replicate n.toNat xs).flatten

namespace Engine

/-- What is said of operands that do not go together. -/
def unsupported (sign : String) (a b : Value) : Run Value := do
  let (x, y) ← Run.reading fun m => (m.typeName a, m.typeName b)
  Run.raise "TypeError" ("unsupported operand type(s) for " ++ sign ++ ": '" ++ x ++ "' and '" ++ y ++
    "'")

/-- What is said of something that cannot be joined to a sequence. -/
def cannotJoin (kind : String) (b : Value) : Run Value := do
  let y ← Run.reading fun m => m.typeName b
  Run.raise "TypeError" ("can only concatenate " ++ kind ++ " (not \"" ++ y ++ "\") to " ++ kind)

/-- What is said of a sequence that is to be repeated by something that is no number. -/
def cannotRepeat (b : Value) : Run Value := do
  let y ← Run.reading fun m => m.typeName b
  Run.raise "TypeError" ("can't multiply sequence by non-int of type '" ++ y ++ "'")

/-- A list object as it is. -/
def listItems? (v : Value) : Run (Option (List Value)) := do
  match v with
  | .ref at_ =>
    match ← Run.obj at_ with
    | .list items => return some items.toList
    | _ => return none
  | _ => return none

/-- A dictionary object as it is. -/
def dictItems? (v : Value) : Run (Option (List (Value × Value))) := do
  match v with
  | .ref at_ =>
    match ← Run.obj at_ with
    | .dict items => return some items
    | _ => return none
  | _ => return none

/-- A sequence repeated, if the operands ask for that. -/
def repetition? (a b : Value) : Run (Option Value) := do
  match a, b.int? with
  | .str p, some n => return some (.str (← repeated p n))
  | .bytes p, some n => return some (.bytes (← repeated p n))
  | .tuple items, some n => return some (.tuple (← repeated items n))
  | .ref _, some n =>
    match ← listItems? a with
    | some items => return some (← Run.alloc (.list (← repeated items n).toArray))
    | none => return none
  | _, _ => return none

/-- Is the value a sequence? -/
def isSequence (v : Value) : Run Bool := do
  match v with
  | .str _ => return true
  | .bytes _ => return true
  | .tuple _ => return true
  | v => return (← listItems? v).isSome

/-- An operation between two values, apart from those that the program defines; complaints show the sign. -/
def plainBinary (op : BinOp) (sign : String) (a b : Value) : Run Value := do
  match a.int?, b.int? with
  | some x, some y =>
    match op, a, b with
    | .bitAnd, .bool x, .bool y => return .bool (x && y)
    | .bitOr, .bool x, .bool y => return .bool (x || y)
    | .bitXor, .bool x, .bool y => return .bool (x != y)
    | _, _, _ => intOp op x y
  | _, _ =>
    match a.float?.bind fun x => b.float?.bind fun y => floatOp? op x y with
    | some r => if a.isVast || b.isVast then Run.abrupt .beyond else r
    | none =>
      match op with
      | .add =>
        match a, b with
        | .str x, .str y => return .str (x ++ y)
        | .bytes x, .bytes y => return .bytes (x ++ y)
        | .tuple x, .tuple y => return .tuple (x ++ y)
        | .str _, b => cannotJoin "str" b
        | .tuple _, b => cannotJoin "tuple" b
        | a, b =>
          match ← listItems? a, ← listItems? b with
          | some x, some y => Run.alloc (.list (x ++ y).toArray)
          | some _, none => cannotJoin "list" b
          | _, _ => unsupported sign a b
      | .mul =>
        match ← repetition? a b with
        | some v => return v
        | none =>
          match ← repetition? b a with
          | some v => return v
          | none =>
            let first ← isSequence a
            let second ← isSequence b
            if first then cannotRepeat b
            else if second then cannotRepeat a
            else unsupported sign a b
      | .bitOr =>
        match ← dictItems? a, ← dictItems? b with
        | some _, some _ => Run.abrupt .beyond
        | _, _ => unsupported sign a b
      | .mod =>
        match a with
        | .bytes _ => Run.abrupt .beyond
        | a => unsupported sign a b
      | _ => unsupported sign a b

/-! ## Comparison -/

/-- The length that a class answers with for a value. -/
def lengthFrom (r : Value) : Run Nat := do
  match r.int? with
  | some n => if n < 0 then Run.raise "ValueError" "__len__() should return >= 0" else return n.toNat
  | none =>
    let name ← Run.reading fun m => m.typeName r
    Run.raise "TypeError" ("'" ++ name ++ "' object cannot be interpreted as an integer")

/-- The method of the program that compares two values, and the values as it takes them: that of the first
value, called by the first name, or that of the second one, called by the other name. A class below that of
the first value goes first. -/
def comparer? (m : Machine) (mine theirs : String) (a b : Value) : Option (Value × List Value) :=
  let own := (m.method? a mine).map fun f => (f, [a, b])
  let other := (m.method? b theirs).map fun f => (f, [b, a])
  let c := m.classOf a
  let d := m.classOf b
  if !Machine.sameClass c d && m.below d c then other.or own else own.or other

mutual

/-- Are two values equal? The number bounds how deep they are looked into. -/
def equal (E : Engine) : Nat → Value → Value → Run Bool
  | 0, _, _ => Run.abrupt .beyond
  | n + 1, a, b => do
    match a, b with
    | .none, .none => return true
    | .ellipsis, .ellipsis => return true
    | .str x, .str y => return x == y
    | .bytes x, .bytes y => return x == y
    | .tuple x, .tuple y => equalAll E n x y
    | .range a b c, .range x y z => return a == x && b == y && c == z
    | .cls x, .cls y => return x == y
    | .native x, .native y => return x == y
    | .asker x, .asker y => return x == y
    | .bound _ _, .bound _ _ => Run.abrupt .beyond
    | .ref x, .ref y =>
      if x == y then return true
      match ← Run.reading fun m => comparer? m "__eq__" "__eq__" a b with
      | some (f, vs) => truth E (← E.call f vs [])
      | none =>
        match ← Run.obj x, ← Run.obj y with
        | .list xs, .list ys => equalAll E n xs.toList ys.toList
        | .dict xs, .dict ys =>
          if xs.length != ys.length then return false
          xs.allM fun (k, v) => do
            let found ← ys.findM? fun (k', _) => equal E n k k'
            match found with
            | some (_, v') => equal E n v v'
            | none => return false
        | .view _ _, .view _ _ => Run.abrupt .beyond
        | _, _ => return false
    | a, b =>
      match a.int?, b.int? with
      | some x, some y => return x == y
      | _, _ =>
        match a.float?, b.float? with
        | some x, some y => if a.isVast || b.isVast then Run.abrupt .beyond else return x == y
        | _, _ =>
          match ← Run.reading fun m => comparer? m "__eq__" "__eq__" a b with
          | some (f, vs) => truth E (← E.call f vs [])
          | none => return false

/-- Are the items of two sequences equal, one by one? -/
def equalAll (E : Engine) : Nat → List Value → List Value → Run Bool
  | 0, _, _ => Run.abrupt .beyond
  | _ + 1, [], [] => return true
  | n + 1, x :: xs, y :: ys => do
    if ← equal E n x y then equalAll E n xs ys else return false
  | _ + 1, _, _ => return false

/-- Does a value count as true? -/
def truth (E : Engine) (v : Value) : Run Bool := do
  match v with
  | .none => return false
  | .bool b => return b
  | .int n => return n != 0
  | .float x => return x != 0.0
  | .str p => return !p.isEmpty
  | .bytes p => return !p.isEmpty
  | .tuple items => return !items.isEmpty
  | .range a b s => return (if 0 < s then a < b else b < a)
  | .ref at_ =>
    match ← Run.reading fun m => m.method? v "__bool__" with
    | some f =>
      match ← E.call f [v] [] with
      | .bool b => return b
      | r =>
        let name ← Run.reading fun m => m.typeName r
        Run.raise "TypeError" ("__bool__ should return bool, returned " ++ name)
    | none =>
      match ← Run.reading fun m => m.method? v "__len__" with
      | some f => return (← lengthFrom (← E.call f [v] [])) != 0
      | none =>
        match ← Run.obj at_ with
        | .list items => return !items.isEmpty
        | .dict items => return !items.isEmpty
        | .view dict _ =>
          match ← Run.obj dict with
          | .dict items => return !items.isEmpty
          | _ => return true
        | _ => return true
  | _ => return true

end

/-- How deep values are compared. -/
def compareDepth : Nat := 1000000

/-- What is said of a value that can be no key. Nothing of a program runs for keys that can be. -/
def requireKey (v : Value) : Run Unit := do
  match v with
  | .tuple vs => all vs
  | .ref at_ =>
    let bad ← match ← Run.obj at_ with
      | .list _ => pure true
      | .dict _ => pure true
      | .view _ kind => pure (kind != "values")
      | _ => Run.reading fun m => (m.method? v "__eq__").isSome
    if bad then
      let name ← Run.reading fun m => m.typeName v
      Run.raise "TypeError" ("unhashable type: '" ++ name ++ "'")
  | _ => return ()
where
  all : List Value → Run Unit
    | [] => return ()
    | v :: rest => do
      requireKey v
      all rest

/-- The value under a key. -/
def lookUp (E : Engine) (items : List (Value × Value)) (k : Value) : Run (Option Value) := do
  requireKey k
  let found ← items.findM? fun (k', _) => E.equal compareDepth k' k
  return found.map (·.2)

/-- What is said of values that have no order. -/
def unordered (op : CompareOp) (a b : Value) : Run Value := do
  let (x, y) ← Run.reading fun m => (m.typeName a, m.typeName b)
  Run.raise "TypeError" ("'" ++ op.sign ++ "' not supported between instances of '" ++ x ++ "' and '" ++
    y ++ "'")

/-- The order of two texts. -/
def comparePoints : Points → Points → Ordering
  | [], [] => .eq
  | [], _ => .lt
  | _, [] => .gt
  | x :: xs, y :: ys => if x < y then .lt else if y < x then .gt else comparePoints xs ys

/-- The method by which a class defines an order. -/
def orderMethod : CompareOp → String
  | .lt => "__lt__"
  | .le => "__le__"
  | .gt => "__gt__"
  | .ge => "__ge__"
  | _ => ""

/-- The method by which the class of the second value defines the same order. -/
def mirroredMethod : CompareOp → String
  | .lt => "__gt__"
  | .le => "__ge__"
  | .gt => "__lt__"
  | .ge => "__le__"
  | _ => ""

/-- Does a comparison hold of two values in this order? None if a number is no number. -/
def CompareOp.holds (op : CompareOp) (o : Option Ordering) : Bool :=
  match op, o with
  | .lt, some .lt => true
  | .le, some .lt => true
  | .le, some .eq => true
  | .gt, some .gt => true
  | .ge, some .gt => true
  | .ge, some .eq => true
  | _, _ => false

/-- What a comparison by order comes to. The number bounds how deep the values are looked into. -/
def order (E : Engine) (op : CompareOp) : Nat → Value → Value → Run Value
  | 0, _, _ => Run.abrupt .beyond
  | n + 1, a, b => do
    let so (o : Option Ordering) : Value := .bool (CompareOp.holds op o)
    match ← Run.reading fun m => comparer? m (orderMethod op) (mirroredMethod op) a b with
    | some (f, vs) => E.call f vs []
    | none =>
      match a, b with
      | .str x, .str y => return so (some (comparePoints x y))
      | .bytes x, .bytes y => return so (some (comparePoints x y))
      | .tuple x, .tuple y => orderAll n x y
      | a, b =>
        match a.int?, b.int? with
        | some x, some y => return so (some (compare x y))
        | _, _ =>
          match a.float?, b.float? with
          | some x, some y =>
            if a.isVast || b.isVast then Run.abrupt .beyond
            return so (if x < y then some .lt else if y < x then some .gt
              else if x == y then some .eq else none)
          | _, _ =>
            match ← listItems? a, ← listItems? b with
            | some x, some y => orderAll n x y
            | _, _ => unordered op a b
where
  orderAll (n : Nat) : List Value → List Value → Run Value
    | [], [] => return .bool (CompareOp.holds op (some .eq))
    | [], _ => return .bool (CompareOp.holds op (some .lt))
    | _, [] => return .bool (CompareOp.holds op (some .gt))
    | x :: xs, y :: ys => do
      if ← E.equal compareDepth x y then orderAll n xs ys else order E op n x y

/-- Are two values the same one? -/
def same (a b : Value) : Bool :=
  match a, b with
  | .none, .none => true
  | .ellipsis, .ellipsis => true
  | .bool x, .bool y => x == y
  | .int x, .int y => x == y
  | .str x, .str y => x == y
  | .cls x, .cls y => x == y
  | .native x, .native y => x == y
  | .asker x, .asker y => x == y
  | .ref x, .ref y => x == y
  | _, _ => false

/-- Does a text occur in another one? -/
def occursIn (piece : Points) : Points → Bool
  | [] => piece.isEmpty
  | c :: rest => piece.isPrefixOf (c :: rest) || occursIn piece rest

/-! ## Items -/

/-- How many steps a range has. -/
def rangeLength (a b s : Int) : Nat :=
  if 0 < s then ((b - a + s - 1).fdiv s).toNat
  else if s < 0 then ((a - b - s - 1).fdiv (-s)).toNat
  else 0

/-- What is said of something that has no items. -/
def notIterable {α : Type} (v : Value) : Run α := do
  let name ← Run.reading fun m => m.typeName v
  Run.raise "TypeError" ("'" ++ name ++ "' object is not iterable")

/-- What is said of a stream that has been closed. Some functions put a full stop after it. -/
def closedStream (stopped : Bool) : Run Value :=
  Run.raise "ValueError" (if stopped then "I/O operation on closed file." else "I/O operation on closed file")

/-- Is it something that is gone through item by item? -/
def isCursor (v : Value) : Run Bool := do
  match v with
  | .ref at_ =>
    match ← Run.obj at_ with
    | .cursor _ _ => return true
    | .stream _ => return true
    | _ => return (← Run.reading fun m => m.method? v "__next__").isSome
  | _ => return false

/-- A cursor at the first item of a value. -/
def cursor (E : Engine) (v : Value) : Run Value := do
  let along (kind : String) (items : List Value) : Run Value := Run.alloc (.cursor kind (.items items))
  match v with
  | .str p =>
    along (if p.all fun n => decide (n < 128) then "str_ascii_iterator" else "str_iterator")
      (p.map fun n => .str [n])
  | .bytes p => along "bytes_iterator" (p.map fun n => .int (Int.ofNat n))
  | .tuple items => along "tuple_iterator" items
  | .range a b s => Run.alloc (.cursor "range_iterator" (.range a b s))
  | .ref at_ =>
    match ← Run.obj at_ with
    | .list _ => Run.alloc (.cursor "list_iterator" (.list at_ 0))
    | .dict items => Run.alloc (.cursor "dict_keyiterator" (.entries at_ "keys" items.length 0))
    | .view dict kind =>
      match ← Run.obj dict with
      | .dict items =>
        let name := "dict_" ++ String.ofList kind.toList.dropLast ++ "iterator"
        Run.alloc (.cursor name (.entries dict kind items.length 0))
      | _ => Run.abrupt .beyond
    | .cursor _ _ => return v
    | .stream .closed => closedStream true
    | .stream _ => return v
    | _ =>
      match ← Run.reading fun m => m.method? v "__iter__" with
      | some f =>
        let c ← E.call f [v] []
        if ← isCursor c then return c
        else
          let name ← Run.reading fun m => m.typeName c
          Run.raise "TypeError" ("iter() returned non-iterator of type '" ++ name ++ "'")
      | none =>
        match ← Run.reading fun m => m.method? v "__getitem__" with
        | some _ => Run.abrupt .beyond
        | none => notIterable v
  | v => notIterable v

/-- A cursor at the first item of a value; another complaint stands in for one about its class. -/
def cursorOr (E : Engine) (v : Value) (complaint : Run Value) : Run Value := do
  match ← Run.attempt (E.cursor v) with
  | .ok c => return c
  | .error (.raised e) =>
    if ← Run.reading fun m => m.below (m.classOf e) (.cls "TypeError") then complaint
    else Run.abrupt (.raised e)
  | .error e => Run.abrupt e

/-- What an answer from outside is as a value. -/
def ofJson : Json Points → Run Value
  | .null => return .none
  | .bool b => return .bool b
  | .num (.int n) => return .int n
  | .num (.float x) => return .float x
  | .str p => return .str p
  | .arr items => do
    let vs ← all items
    Run.alloc (.list vs.toArray)
  | .obj members => do
    let vs ← pairs members
    Run.alloc (.dict vs)
where
  all : List (Json Points) → Run (List Value)
    | [] => return []
    | x :: rest => do return (← ofJson x) :: (← all rest)
  pairs : List (Points × Json Points) → Run (List (Value × Value))
    | [] => return []
    | (k, v) :: rest => do return (.str k, ← ofJson v) :: (← pairs rest)

/-- An answer as a value, given what is done with one that is no text. -/
def answered (onValue : Value → Run Value) : Answer → Run Value
  | .text p => return .str p
  | .value v => do onValue (← ofJson v)
  | .misread v => do
    let v ← ofJson v
    let name ← Run.reading fun m => m.typeName v
    Run.raise "AttributeError" ("'" ++ name ++ "' object has no attribute 'get'")
  | .garbled => Run.abrupt .beyond
  | .closed => Run.raiseWith "SystemExit" [.int 0]

/-- An answer that has to be text: a line end is put after it. -/
def answeredLine (a : Answer) : Run Value :=
  answered (fun v => plainBinary .add "+" v (.str [10])) a

/-- Asks for lines that there is nowhere to echo; what comes is lost. -/
def lostLines : Run Value := do
  match ← answered (fun _ => closedStream false) (← Run.ask .silent) with
  | .str [] => return .str []
  | _ => closedStream false

/-- Asks for the lines of the request of that number. Once its captured output has been closed they are lost. -/
def hostLines (serial : Nat) (q : Question) : Run Value := do
  if serial != (← Run.reading (·.serial)) then Run.abrupt .beyond
  else if ← Run.reading (·.closed) then lostLines
  else answeredLine (← Run.ask q)

/-- What is said of something that a stream cannot do. -/
def cannot {α : Type} (what : String) : Run α := Run.raise "UnsupportedOperation" what

/-- The line in front of a text, with its end. -/
def lineOf : Points → Points
  | [] => []
  | 10 :: _ => [10]
  | c :: rest => c :: lineOf rest

/-- The next line of a stream with its end; empty at the end. -/
def streamLine (at_ : Nat) (s : Stream) : Run Value := do
  match s with
  | .host serial => hostLines serial .line
  | .buffer p k =>
    let line := lineOf (p.drop k)
    Run.change fun m => m.setObj at_ (.stream (.buffer p (k + line.length)))
    return .str line
  | .null false => cannot "not readable"
  | .closed => closedStream false
  | _ => return .str []

/-- One item of each cursor, if all have one; none of no cursors. -/
def oneOfEach (E : Engine) : List Value → Run (Option (List Value))
  | [] => return none
  | [c] => do return (← E.next c).map ([·])
  | c :: rest => do
    match ← E.next c with
    | some v => return (← oneOfEach E rest).map (v :: ·)
    | none => return none

/-- What is said of something that is not gone through item by item. -/
def notIterator {α : Type} (v : Value) : Run α := do
  let name ← Run.reading fun m => m.typeName v
  Run.raise "TypeError" ("'" ++ name ++ "' object is not an iterator")

/-- The next item at a cursor. -/
def nextRule (E : Engine) (c : Value) : Run (Option Value) := do
  match c with
  | .ref at_ =>
    let put (c : Cursor) : Run Unit := Run.change fun m =>
      match m.obj at_ with
      | .cursor kind _ => m.setObj at_ (.cursor kind c)
      | _ => m
    match ← Run.obj at_ with
    | .cursor _ (.items []) => return none
    | .cursor _ (.items (v :: rest)) =>
      put (.items rest)
      return some v
    | .cursor _ (.list list i) =>
      match ← Run.obj list with
      | .list items =>
        match items[i]? with
        | some v =>
          put (.list list (i + 1))
          return some v
        | none =>
          put (.items [])
          return none
      | _ => return none
    | .cursor _ (.entries dict kind size i) =>
      match ← Run.obj dict with
      | .dict items =>
        if items.length != size then
          Run.raise "RuntimeError" "dictionary changed size during iteration"
        else
          match items[i]? with
          | some item =>
            put (.entries dict kind size (i + 1))
            return some (viewed kind item)
          | none =>
            put (.items [])
            return none
      | _ => return none
    | .cursor _ (.range a b s) =>
      if (0 < s && a < b) || (s < 0 && b < a) then
        put (.range (a + s) b s)
        return some (.int a)
      else return none
    | .stream s =>
      match ← streamLine at_ s with
      | .str [] => return none
      | v => return some v
    | .cursor _ (.counted n source) =>
      match ← E.next source with
      | some v =>
        put (.counted (n + 1) source)
        return some (.tuple [.int n, v])
      | none => return none
    | .cursor _ (.zipped sources) => do return (← oneOfEach E sources).map Value.tuple
    | .cursor _ (.mapped f sources) =>
      match ← oneOfEach E sources with
      | some vs => do return some (← E.call f vs [])
      | none => return none
    | .cursor _ (.filtered f source) =>
      Run.repeating (fun (_ : Unit) => do
        match ← E.next source with
        | some v =>
          let wanted ← match f with
            | .none => E.truth v
            | f => do E.truth (← E.call f [v] [])
          if wanted then return .inr (some v) else return .inl ()
        | none => return .inr none) E.rounds ()
    | _ =>
      match ← Run.reading fun m => m.method? c "__next__" with
      | some f =>
        match ← Run.attempt (E.call f [c] []) with
        | .ok v => return some v
        | .error (.raised e) =>
          let ended ← Run.reading fun m => m.below (m.classOf e) (.cls "StopIteration")
          if ended then return none else Run.abrupt (.raised e)
        | .error e => Run.abrupt e
      | none => notIterator c
  | v => notIterator v

/-- All items at a cursor. -/
def itemsAt (E : Engine) (c : Value) : Run (List Value) :=
  Run.repeating (fun (acc : List Value) => do
    match ← E.next c with
    | some v => return .inl (v :: acc)
    | none => return .inr acc.reverse) E.rounds []

/-- All items of a value. -/
def items (E : Engine) (v : Value) : Run (List Value) := do
  E.itemsAt (← E.cursor v)

/-- Does a value occur among the items of another one? -/
def contains (E : Engine) (a b : Value) : Run Bool := do
  match b, a with
  | .str p, .str piece => return occursIn piece p
  | .bytes _, .bytes _ => Run.abrupt .beyond
  | .str _, a =>
    let name ← Run.reading fun m => m.typeName a
    Run.raise "TypeError" ("'in <string>' requires string as left operand, not " ++ name)
  | b, a =>
    match ← Run.reading fun m => m.method? b "__contains__" with
    | some f => E.truth (← E.call f [b, a] [])
    | none =>
      if let some items ← dictItems? b then return (← E.lookUp items a).isSome
      let c ← E.cursorOr b do
        let name ← Run.reading fun m => m.typeName b
        Run.raise "TypeError" ("argument of type '" ++ name ++ "' is not iterable")
      Run.repeating (fun (_ : Unit) => do
        match ← E.next c with
        | some v => if ← E.equal compareDepth v a then return .inr true else return .inl ()
        | none => return .inr false) E.rounds ()

/-- What a comparison of two values comes to. -/
def compared (E : Engine) (op : CompareOp) (a b : Value) : Run Value := do
  match op with
  | .eq =>
    match ← Run.reading fun m => comparer? m "__eq__" "__eq__" a b with
    | some (f, vs) => E.call f vs []
    | none => return .bool (← E.equal compareDepth a b)
  | .ne =>
    match ← Run.reading fun m => comparer? m "__eq__" "__eq__" a b with
    | some (f, vs) => return .bool !(← E.truth (← E.call f vs []))
    | none => return .bool !(← E.equal compareDepth a b)
  | .is => return .bool (same a b)
  | .isNot => return .bool !same a b
  | .isIn => return .bool (← E.contains a b)
  | .notIn => return .bool !(← E.contains a b)
  | op => E.order op compareDepth a b

/-- Does a comparison of two values hold? -/
def compareOp (E : Engine) (op : CompareOp) (a b : Value) : Run Bool := do
  E.truth (← E.compared op a b)

end Engine

end Snippet.Guest
