import Snippet.Guest.Format
import Snippet.Guest.Token
import Snippet.Text.Blank
import Snippet.Text.Case
/-!
The methods of texts, lists, dictionaries and streams.

Each kind of value has a list of the methods that it has and one function that carries a method out by its
name.
-/

namespace Snippet.Guest

open Snippet.Text

/-! ## Arguments -/

/-- Arguments by name. -/
abbrev Named := List (String × Value)

/-- What is said of a wrong number of arguments where only one number is right. -/
def wrongCount {α : Type} (name what : String) (given : Nat) : Run α :=
  Run.raise "TypeError" (name ++ "() takes " ++ what ++ " (" ++ toString given ++ " given)")

/-- No arguments. -/
def takesNone (name : String) : List Value → Run Unit
  | [] => return ()
  | args => wrongCount name "no arguments" args.length

/-- One argument. -/
def takesOne (name : String) : List Value → Run Value
  | [v] => return v
  | args => wrongCount name "exactly one argument" args.length

/-- A number of arguments in words. -/
def argumentCount (n : Nat) : String := toString n ++ (if n == 1 then " argument" else " arguments")

/-- As many arguments as there may be. -/
def expects (name : String) (least most : Nat) (args : List Value) : Run Unit :=
  let n := args.length
  if least ≤ n && n ≤ most then return ()
  else
    let bound := if least == most then argumentCount least
      else if n < least then "at least " ++ argumentCount least
      else "at most " ++ argumentCount most
    Run.raise "TypeError" (name ++ " expected " ++ bound ++ ", got " ++ toString n)

/-- What is said of arguments by name where there can be none. -/
def noNames (name : String) : Named → Run Unit
  | [] => return ()
  | _ => Run.raise "TypeError" (name ++ "() takes no keyword arguments")

/-- Names in a row: with commas, and a word before the last one. -/
def namesInRow : List String → String
  | [] => ""
  | [a] => "'" ++ a ++ "'"
  | [a, b] => "'" ++ a ++ "' and '" ++ b ++ "'"
  | names =>
    String.join (names.dropLast.map fun a => "'" ++ a ++ "', ") ++ "and '" ++ names.getLast?.getD "" ++
      "'"

/-- What the parameters of a function of a program stand for in a call: their names, the name that takes the
rest, and what stands in for arguments that are missing. The name of the function is for complaints. -/
def bindArguments (name : String) (params : List String) (rest : Option String)
    (fallbacks : List (Option Value)) (args : List Value) (named : Named) : Run Attrs := do
  let bound : Attrs := params.zip args
  let bound ← named.foldlM (fun (bound : Attrs) (x, v) => do
    if !params.contains x then
      Run.raise "TypeError" (name ++ "() got an unexpected keyword argument '" ++ x ++ "'")
    else if bound.any fun b => b.1 == x then
      Run.raise "TypeError" (name ++ "() got multiple values for argument '" ++ x ++ "'")
    else pure (bound ++ [(x, v)])) bound
  let most := params.length
  let given := args.length
  if most < given && rest.isNone then
    let optional := (fallbacks.filter Option.isSome).length
    let taken := if optional == 0 then toString most ++ " positional argument" ++
        (if most == 1 then "" else "s")
      else "from " ++ toString (most - optional) ++ " to " ++ toString most ++ " positional arguments"
    Run.raise "TypeError" (name ++ "() takes " ++ taken ++ " but " ++ toString given ++
      (if given == 1 then " was given" else " were given"))
  let filled := (params.zip fallbacks).filterMap fun (x, d) =>
    if bound.any fun b => b.1 == x then none else some (x, d)
  let missing := filled.filterMap fun (x, d) => if d.isNone then some x else none
  if !missing.isEmpty then
    Run.raise "TypeError" (name ++ "() missing " ++ toString missing.length ++
      " required positional argument" ++ (if missing.length == 1 then "" else "s") ++ ": " ++
      namesInRow missing)
  let more : Attrs := match rest with
    | some x => [(x, .tuple (args.drop most))]
    | none => []
  return bound ++ (filled.filterMap fun (x, d) => d.map fun v => (x, v)) ++ more

/-- The class name of a value. -/
def kindOf (v : Value) : Run String := Run.reading fun m => m.typeName v

/-- A whole number. -/
def wholeNumber (v : Value) : Run Int := do
  match v.int? with
  | some n => return n
  | none => Run.raise "TypeError" ("'" ++ (← kindOf v) ++ "' object cannot be interpreted as an integer")

/-! ## Texts -/

/-- Is a code point blank between words? -/
def isGap (n : Nat) : Bool := isBlank (Char.ofNat n) || (0x1C ≤ n && n ≤ 0x1F)

/-- The words of a text, at most so many cuts. -/
def wordsOf : Nat → Nat → Points → List Points
  | 0, _, _ => []
  | n + 1, cuts, p =>
    match p.dropWhile isGap with
    | [] => []
    | p =>
      if cuts == 0 then [(p.reverse.dropWhile isGap).reverse]
      else (p.takeWhile fun c => !isGap c) :: wordsOf n (cuts - 1) (p.dropWhile fun c => !isGap c)

/-- The place of a piece in a text, from a place on. -/
def placeOf (piece : Points) : Nat → Points → Option Nat
  | at_, [] => if piece.isEmpty then some at_ else none
  | at_, c :: rest => if piece.isPrefixOf (c :: rest) then some at_ else placeOf piece (at_ + 1) rest

/-- The parts of a text between separators, at most so many cuts. -/
def partsBy (sep : Points) : Nat → Nat → Points → List Points
  | 0, _, p => [p]
  | n + 1, cuts, p =>
    match cuts, placeOf sep 0 p with
    | cuts + 1, some i => p.take i :: partsBy sep n cuts (p.drop (i + sep.length))
    | _, _ => [p]

/-- Texts with a text between each two of them. -/
def joinedBy (sep : Points) : List Points → Points
  | [] => []
  | [p] => p
  | p :: rest => p ++ sep ++ joinedBy sep rest

/-- A text with its letters in uppercase. -/
def upperPoints (p : Points) : Points :=
  p.flatMap fun n => if Points.isSurrogate n then [n] else (upperChar (Char.ofNat n)).map Char.toNat

/-- A letter in lowercase: the one whose uppercase form it is. -/
def lowerPoint (n : Nat) : Nat :=
  let from_ (r : CaseRange) : Option Nat :=
    let k := (n : Int) - r.offset
    if (r.first : Int) ≤ k && k ≤ r.last && (k - r.first) % r.step == 0 then some k.toNat else none
  let runs := upperRanges.filter fun r => r.first != r.last
  if (upperChar (Char.ofNat n)).map Char.toNat != [n] then n
  else ((runs.findSome? from_).orElse fun _ => upperRanges.findSome? from_).getD n

/-- A text with its letters in lowercase. -/
def lowerPoints (p : Points) : Points := p.map lowerPoint

/-- Is a code point a letter that has two forms? -/
def isCased (n : Nat) : Bool := upperPoints [n] != [n] || lowerPoint n != n

/-- Is a code point a letter? -/
def isLetter (n : Nat) : Bool := isNameStart (Char.ofNat n) && n != 95

/-- A text with the first letter of each word in uppercase and the others in lowercase. -/
def titled : Bool → Points → Points
  | _, [] => []
  | inWord, n :: rest =>
    (if inWord then [lowerPoint n] else upperPoints [n]) ++ titled (isCased n) rest

/-- The lines of a text, with their ends or without. -/
def linesIn (ends : Bool) : Nat → Points → List Points
  | 0, _ => []
  | _, [] => []
  | n + 1, p =>
    let isEnd (c : Nat) : Bool := (10 ≤ c && c ≤ 13) || (0x1C ≤ c && c ≤ 0x1E) || c == 0x85 ||
      c == 0x2028 || c == 0x2029
    let line := p.takeWhile fun c => !isEnd c
    match p.dropWhile fun c => !isEnd c with
    | [] => [line]
    | 13 :: 10 :: rest => (if ends then line ++ [13, 10] else line) :: linesIn ends n rest
    | c :: rest => (if ends then line ++ [c] else line) :: linesIn ends n rest

/-- How often a piece occurs in a text, counted without overlaps. -/
def timesIn (piece p : Points) : Nat :=
  if piece.isEmpty then p.length + 1 else (partsBy piece (p.length + 1) (p.length + 1) p).length - 1

/-- A place in a sequence, counted from the end if it is negative, within its bounds. -/
def clamped (length : Nat) (i : Int) : Nat :=
  if i < 0 then (length + i).toNat else min i.toNat length

/-- The methods of texts. -/
def textMethods : List String :=
  ["upper", "lower", "casefold", "strip", "lstrip", "rstrip", "split", "rsplit", "join", "replace",
    "startswith", "endswith", "find", "rfind", "index", "count", "isdigit", "isdecimal", "isnumeric",
    "isalpha", "isalnum", "isspace", "isupper", "islower", "isidentifier", "format", "splitlines",
    "zfill", "ljust", "rjust", "center", "title", "capitalize", "swapcase", "partition", "rpartition",
    "encode", "removeprefix", "removesuffix", "isprintable", "isascii"]

namespace Engine

/-- A text among the arguments of a method. -/
def textArg (what : String) (v : Value) : Run Points := do
  match v with
  | .str p => return p
  | v => Run.raise "TypeError" (what ++ ", not " ++ (← kindOf v))

/-- A list of texts as an object. -/
def textList (ps : List Points) : Run Value := Run.alloc (.list (ps.map Value.str).toArray)

/-- A text without certain code points at its ends. -/
def strip (name : String) (p : Points) (args : List Value) (front back : Bool) : Run Value := do
  expects name 0 1 args
  let drops ← match args with
    | [.str q] => pure fun c => q.contains c
    | [.none] => pure isGap
    | [_] => Run.raise "TypeError" (name ++ " arg must be None or str")
    | _ => pure isGap
  let p := if front then p.dropWhile drops else p
  return .str (if back then (p.reverse.dropWhile drops).reverse else p)

/-- A text laid out in a width. -/
def justified (name : String) (align : Char) (p : Points) (args : List Value) : Run Value := do
  expects name 1 2 args
  let width ← wholeNumber (args[0]?.getD .none)
  let fill ← match args.drop 1 with
    | [] => pure 32
    | .str [c] :: _ => pure c
    | .str _ :: _ => Run.raise "TypeError" "The fill character must be exactly one character long"
    | _ => Run.abrupt .beyond
  if bitLimit < width.toNat then Run.abrupt .beyond
  let gap := width.toNat - p.length
  let left := match align with
    | '<' => 0
    | '>' => gap
    | _ => gap / 2 + (if gap % 2 == 1 && width.toNat % 2 == 1 then 1 else 0)
  return .str (List.replicate left fill ++ p ++ List.replicate (gap - left) fill)

/-- Does a text begin or end with a piece, or with one of several? -/
def touches (name : String) (test : Points → Bool) (v : Value) : Run Value := do
  match v with
  | .str q => return .bool (test q)
  | .tuple vs =>
    let hits ← vs.mapM fun
      | .str q => return test q
      | _ => Run.abrupt .beyond
    return .bool (hits.any id)
  | v =>
    Run.raise "TypeError" (name ++ " first arg must be str or a tuple of str, not " ++ (← kindOf v))

/-- A text cut by a separator, or into words; from its end, only where that makes no difference. -/
def splitText (fromEnd : Bool) (p : Points) (args : List Value) (named : Named) : Run Value := do
  let name := if fromEnd then "rsplit" else "split"
  if 2 < args.length + named.length || named.any fun a => a.1 != "sep" && a.1 != "maxsplit" then
    Run.abrupt .beyond
  let arg (i : Nat) (x : String) : Option Value :=
    args[i]?.orElse fun _ => (named.find? fun a => a.1 == x).map (·.2)
  expects name 0 2 args
  let cuts ← match arg 1 "maxsplit" with
    | none => pure (-1)
    | some v => wholeNumber v
  if fromEnd && 0 ≤ cuts then Run.abrupt .beyond
  let cuts := if cuts < 0 then p.length + 1 else cuts.toNat
  match (arg 0 "sep").getD .none with
  | .none => textList (wordsOf (p.length + 1) cuts p)
  | .str [] => Run.raise "ValueError" "empty separator"
  | .str sep =>
    if fromEnd && sep.length != 1 then Run.abrupt .beyond
    else textList (partsBy sep (p.length + 1) cuts p)
  | v => Run.raise "TypeError" ("must be str or None, not " ++ (← kindOf v))

/-- The items of a text that is joined by a separator. -/
def joinItems (sep : Points) (vs : List Value) : Run Value := do
  let ps ← vs.zipIdx.mapM fun (v, i) => do
    match v with
    | .str p => pure p
    | v =>
      Run.raise "TypeError" ("sequence item " ++ toString i ++ ": expected str instance, " ++
        (← kindOf v) ++ " found")
  return .str (joinedBy sep ps)

/-- Is every code point of a text so, and is there one? -/
def allAre (test : Nat → Bool) (p : Points) : Value := .bool (!p.isEmpty && p.all test)

/-- The only argument of a method that could have more of them. -/
def onlyArg : List Value → Run Value
  | [v] => return v
  | _ => Run.abrupt .beyond

/-- A method of a text. -/
def textMethod (E : Engine) (p : Points) (x : String) (args : List Value) (named : Named) :
    Run Value := do
  let name := "str." ++ x
  let plain (v : Value) : Run Value := do
    takesNone name args
    return v
  -- what letters are, and their lowercase forms, is only said of these
  let ascii (v : Value) : Run Value := do
    takesNone name args
    if p.all fun n => decide (n < 128) then return v else Run.abrupt .beyond
  let piece (what : String) : Run Points := do textArg what (← takesOne name args)
  if !(["split", "rsplit", "splitlines", "format", "encode"].contains x) then noNames name named
  match x with
  | "upper" => plain (.str (upperPoints p))
  | "lower" => ascii (.str (lowerPoints p))
  | "casefold" => ascii (.str (lowerPoints p))
  | "title" => ascii (.str (titled false p))
  | "capitalize" => ascii (.str (upperPoints (p.take 1) ++ lowerPoints (p.drop 1)))
  | "swapcase" =>
    ascii (.str (p.flatMap fun n => if lowerPoint n != n then [lowerPoint n] else upperPoints [n]))
  | "isdigit" => ascii (allAre (fun n => 48 ≤ n && n ≤ 57) p)
  | "isdecimal" => ascii (allAre (fun n => 48 ≤ n && n ≤ 57) p)
  | "isnumeric" => ascii (allAre (fun n => 48 ≤ n && n ≤ 57) p)
  | "isalpha" => ascii (allAre isLetter p)
  | "isalnum" => ascii (allAre (fun n => isLetter n || (48 ≤ n && n ≤ 57)) p)
  | "isspace" => plain (allAre isGap p)
  | "isupper" => ascii (.bool (p.any isCased && upperPoints p == p))
  | "islower" => ascii (.bool (p.any isCased && lowerPoints p == p))
  | "isascii" => plain (.bool (p.all fun n => decide (n < 128)))
  | "isprintable" => plain (.bool (p.all isPrintable))
  | "isidentifier" =>
    ascii (.bool (((p.take 1).any fun n => isNameStart (Char.ofNat n)) &&
      p.all fun n => isNamePart (Char.ofNat n)))
  | "strip" => strip x p args true true
  | "lstrip" => strip x p args true false
  | "rstrip" => strip x p args false true
  | "split" => splitText false p args named
  | "rsplit" => splitText true p args named
  | "join" =>
    let v ← takesOne name args
    let c ← E.cursorOr v (Run.raise "TypeError" "can only join an iterable")
    joinItems p (← E.itemsAt c)
  | "replace" =>
    expects x 2 3 args
    let old ← textArg "replace() argument 1 must be str" (args[0]?.getD .none)
    let new ← textArg "replace() argument 2 must be str" (args[1]?.getD .none)
    let cuts ← match args[2]? with
      | none => pure (-1)
      | some v => wholeNumber v
    let cuts := if cuts < 0 then p.length + 1 else cuts.toNat
    if old.isEmpty then
      let heads := (p.take cuts).flatMap fun n => new ++ [n]
      return .str (heads ++ p.drop cuts ++ (if p.length < cuts then new else []))
    else return .str (joinedBy new (partsBy old (p.length + 1) cuts p))
  | "startswith" => touches x (fun q => q.isPrefixOf p) (← onlyArg args)
  | "endswith" => touches x (fun q => q.isSuffixOf p) (← onlyArg args)
  | "removeprefix" =>
    let q ← piece "removeprefix() argument must be str"
    return .str (if q.isPrefixOf p then p.drop q.length else p)
  | "removesuffix" =>
    let q ← piece "removesuffix() argument must be str"
    return .str (if q.isSuffixOf p then p.take (p.length - q.length) else p)
  | "find" =>
    let q ← textArg "must be str" (← onlyArg args)
    return .int (match placeOf q 0 p with
      | some i => i
      | none => -1)
  | "rfind" =>
    let q ← textArg "must be str" (← onlyArg args)
    return .int (match placeOf q.reverse 0 p.reverse with
      | some i => (p.length - i - q.length : Nat)
      | none => -1)
  | "index" =>
    let q ← textArg "must be str" (← onlyArg args)
    match placeOf q 0 p with
    | some i => return .int i
    | none => Run.raise "ValueError" "substring not found"
  | "count" =>
    let q ← textArg "must be str" (← onlyArg args)
    return .int (timesIn q p)
  | "partition" =>
    let q ← piece "must be str"
    if q.isEmpty then Run.raise "ValueError" "empty separator"
    match placeOf q 0 p with
    | some i => return .tuple [.str (p.take i), .str q, .str (p.drop (i + q.length))]
    | none => return .tuple [.str p, .str [], .str []]
  | "rpartition" =>
    let q ← piece "must be str"
    if q.isEmpty then Run.raise "ValueError" "empty separator"
    match placeOf q.reverse 0 p.reverse with
    | some i =>
      let at_ := p.length - i - q.length
      return .tuple [.str (p.take at_), .str q, .str (p.drop (at_ + q.length))]
    | none => return .tuple [.str [], .str [], .str p]
  | "format" => do return .str (← E.braces args named (p.length + 1) (.inTurn 0) p)
  | "splitlines" =>
    let ends ← match args, named with
      | [], [] => pure false
      | [v], [] => pure ((← wholeNumber v) != 0)
      | [], [("keepends", v)] => pure ((← wholeNumber v) != 0)
      | _, _ => Run.abrupt .beyond
    textList (linesIn ends (p.length + 1) p)
  | "zfill" =>
    let width ← wholeNumber (← takesOne name args)
    let (sign, digits) := match p with
      | 45 :: rest => ([45], rest)
      | 43 :: rest => ([43], rest)
      | rest => ([], rest)
    if bitLimit < width.toNat then Run.abrupt .beyond
    return .str (sign ++ List.replicate (width.toNat - p.length) 48 ++ digits)
  | "ljust" => justified x '<' p args
  | "rjust" => justified x '>' p args
  | "center" => justified x '^' p args
  | _ =>
    match args, named, p.toString? with
    | [], [], some s => return .bytes (s.toUTF8.toList.map (·.toNat))
    | _, _, _ => Run.abrupt .beyond

/-! ## Lists -/

/-- How many items at the front are in order, given the first one and how many came before it. Either each one
is below the one before, or none is. -/
def runLength (E : Engine) (falling : Bool) : Nat → Value → List (Value × Value) → Run Nat
  | n, _, [] => return n
  | n, last, (k, _) :: rest => do
    if (← E.compareOp .lt k last) == falling then runLength E falling (n + 1) k rest else return n

/-- Items in order with another one among them, behind those that equal it. The two numbers are places between
which it belongs. -/
def inserted (E : Engine) (vs : Array (Value × Value)) (new : Value × Value) :
    Run (Array (Value × Value)) :=
  Run.repeating (fun ((l, r) : Nat × Nat) => do
    if r ≤ l then return .inr ((vs.toList.take l ++ new :: vs.toList.drop l).toArray)
    else
      let p := l + (r - l) / 2
      if ← E.compareOp .lt new.1 ((vs[p]?.getD new).1) then return .inl (l, p)
      else return .inl (p + 1, r)) (vs.size + 1) (0, vs.size)

/-- How many items are sorted in the way that is modelled. With more of them, it is only said of whole numbers and
of texts how they come out. -/
def sortLimit : Nat := 64

/-- Items sorted by their keys, equal ones in their order. Where that fails, something is done with the items as
far as they are sorted. -/
def sortPairs (E : Engine) (failing : List (Value × Value) → Run Unit) (vs : List (Value × Value)) :
    Run (List (Value × Value)) := do
  let isText : Value → Bool
    | .str _ => true
    | _ => false
  if sortLimit ≤ vs.length && !(vs.all fun kv => kv.1.int?.isSome) && !(vs.all fun kv => isText kv.1) then
    Run.abrupt .beyond
  let step {α : Type} (sofar : List (Value × Value)) (r : Run α) : Run α := do
    match ← Run.attempt r with
    | .ok a => return a
    | .error e =>
      failing sofar
      Run.abrupt e
  match vs with
  | a :: b :: rest =>
    let (falling, n) ← step vs do
      let falling ← E.compareOp .lt b.1 a.1
      return (falling, ← E.runLength falling 2 b.1 rest)
    let front := if falling then (vs.take n).reverse else vs.take n
    let (all, _) ← (vs.drop n).foldlM (fun (sorted, rest) new => do
      return (← step (sorted.toList ++ rest) (E.inserted sorted new), rest.drop 1)) (front.toArray, vs.drop n)
    return all.toList
  | vs => return vs

/-- Are items to be sorted backwards, and by which keys? -/
def sortKeys (E : Engine) (vs : List Value) (named : Named) : Run (Bool × List (Value × Value)) := do
  if let some (x, _) := named.find? fun a => a.1 != "key" && a.1 != "reverse" then
    Run.raise "TypeError" ("'" ++ x ++ "' is an invalid keyword argument for sort()")
  let get (x : String) : Option Value := (named.find? fun a => a.1 == x).map (·.2)
  let backwards ← match get "reverse" with
    | none => pure false
    | some v => pure ((← wholeNumber v) != 0)
  let keyed ← match (get "key").getD .none with
    | .none => pure (vs.map fun v => (v, v))
    | f => vs.mapM fun v => do pure (← E.call f [v] [], v)
  return (backwards, keyed)

/-- Items sorted by keys. Where that fails, something is done with the items as far as they are sorted. -/
def sorted (E : Engine) (failing : List Value → Run Unit) (backwards : Bool)
    (keyed : List (Value × Value)) : Run (List Value) := do
  let turned (vs : List (Value × Value)) : List (Value × Value) := if backwards then vs.reverse else vs
  let done ← E.sortPairs (fun vs => failing ((turned vs).map (·.2))) (turned keyed)
  return (turned done).map (·.2)

/-- The place of the first item that equals a value. -/
def itemPlace (E : Engine) (v : Value) : Nat → List Value → Run (Option Nat)
  | _, [] => return none
  | i, w :: rest => do
    if ← E.equal compareDepth w v then return some i else itemPlace E v (i + 1) rest

/-- Puts the items of a value behind those of a list, one by one. -/
def extend (E : Engine) (at_ : Nat) (v : Value) : Run Unit := do
  let push (vs : List Value) : Run Unit := Run.change fun m =>
    match m.obj at_ with
    | .list known => m.setObj at_ (.list (known ++ vs.toArray))
    | _ => m
  match v, ← listItems? v with
  | .tuple vs, _ => push vs
  | _, some vs => push vs
  | v, none =>
    let c ← E.cursor v
    Run.repeating (fun (_ : Unit) => do
      match ← E.next c with
      | some v =>
        push [v]
        return .inl ()
      | none => return .inr ()) E.rounds ()

/-- The methods of lists. -/
def listMethods : List String :=
  ["append", "extend", "insert", "pop", "remove", "index", "count", "sort", "reverse", "clear", "copy"]

/-- A method of a list. -/
def listMethod (E : Engine) (at_ : Nat) (vs : Array Value) (x : String) (args : List Value)
    (named : Named) : Run Value := do
  let name := "list." ++ x
  let put (vs : List Value) : Run Value := do
    Run.change fun m => m.setObj at_ (.list vs.toArray)
    return .none
  let items := vs.toList
  if x != "sort" then noNames name named
  match x with
  | "append" =>
    let v ← takesOne name args
    Run.change fun m => m.setObj at_ (.list (vs.push v))
    return .none
  | "extend" =>
    E.extend at_ (← takesOne name args)
    return .none
  | "insert" =>
    expects x 2 2 args
    let i := clamped items.length (← wholeNumber (args[0]?.getD .none))
    put (items.take i ++ [args[1]?.getD .none] ++ items.drop i)
  | "pop" =>
    expects x 0 1 args
    let i ← match args with
      | v :: _ => wholeNumber v
      | [] => pure (-1)
    let at' : Int := if i < 0 then items.length + i else i
    if items.isEmpty then Run.raise "IndexError" "pop from empty list"
    match (if at' < 0 then none else items[at'.toNat]?) with
    | some v =>
      let _ ← put (items.eraseIdx at'.toNat)
      return v
    | none => Run.raise "IndexError" "pop index out of range"
  | "remove" =>
    match ← itemPlace E (← takesOne name args) 0 items with
    | some i => put (items.eraseIdx i)
    | none => Run.raise "ValueError" "list.remove(x): x not in list"
  | "index" =>
    let v ← onlyArg args
    match ← itemPlace E v 0 items with
    | some i => return .int i
    | none => Run.raiseWith "ValueError" [.str ((← E.shown v) ++ pts " is not in list")]
  | "count" =>
    let v ← takesOne name args
    let hits ← items.filterM fun w => E.equal compareDepth w v
    return .int hits.length
  | "sort" =>
    if !args.isEmpty then Run.raise "TypeError" "sort() takes no positional arguments"
    -- while it is sorted the list is empty for everybody else
    let _ ← put []
    let back (vs : List Value) : Run Unit := do
      match ← Run.obj at_ with
      | .list #[] => do let _ ← put vs
      | _ => Run.abrupt .beyond
    match ← Run.attempt (E.sortKeys items named) with
    | .ok (backwards, keyed) =>
      back (← E.sorted back backwards keyed)
      return .none
    | .error e =>
      back items
      Run.abrupt e
  | "reverse" =>
    takesNone name args
    put items.reverse
  | "clear" =>
    takesNone name args
    put []
  | _ =>
    takesNone name args
    Run.alloc (.list vs)

/-- The methods of tuples. -/
def tupleMethods : List String := ["index", "count"]

/-- A method of a tuple. -/
def tupleMethod (E : Engine) (items : List Value) (x : String) (args : List Value) (named : Named) :
    Run Value := do
  noNames ("tuple." ++ x) named
  match x with
  | "count" =>
    let v ← takesOne ("tuple." ++ x) args
    let hits ← items.filterM fun w => E.equal compareDepth w v
    return .int hits.length
  | _ =>
    match ← itemPlace E (← onlyArg args) 0 items with
    | some i => return .int i
    | none => Run.raise "ValueError" "tuple.index(x): x not in tuple"

/-! ## Dictionaries -/

/-- A dictionary with a value under a key. -/
def withItem (E : Engine) (items : List (Value × Value)) (k v : Value) :
    Run (List (Value × Value)) := do
  requireKey k
  let known ← items.mapM fun (k', v') => do
    let hit ← E.equal compareDepth k' k
    pure (hit, (k', if hit then v else v'))
  if known.any (·.1) then return known.map (·.2) else return items ++ [(k, v)]

/-- A dictionary without a key. -/
def withoutItem (E : Engine) (items : List (Value × Value)) (k : Value) :
    Run (List (Value × Value)) := do
  let kept ← items.filterM fun (k', _) => do return !(← E.equal compareDepth k' k)
  return kept

/-- Puts items into a dictionary, one by one. -/
def putItems (E : Engine) (at_ : Nat) (more : List (Value × Value)) : Run Unit := do
  let _ ← more.mapM fun (k, v) => do
    match ← Run.obj at_ with
    | .dict items =>
      let items ← E.withItem items k v
      Run.change fun m => m.setObj at_ (.dict items)
    | _ => pure ()

/-- The key and the value that an item of that number stands for. -/
def pairOf (E : Engine) (i : Nat) (v : Value) : Run (Value × Value) := do
  let which := "dictionary update sequence element #" ++ toString i
  let c ← E.cursorOr v (Run.raise "TypeError" ("cannot convert " ++ which ++ " to a sequence"))
  match ← E.itemsAt c with
  | [k, v] => return (k, v)
  | vs =>
    Run.raise "ValueError" (which ++ " has length " ++ toString vs.length ++ "; 2 is required")

/-- Puts what is given by arguments into a dictionary: the items of another one, or pairs, and what has a name. -/
def updateDict (E : Engine) (name : String) (at_ : Nat) (args : List Value) (named : Named) : Run Unit := do
  expects name 0 1 args
  match args with
  | [] => pure ()
  | v :: _ =>
    match ← dictItems? v, ← Run.reading fun m => m.method? v "keys" with
    | some more, _ => E.putItems at_ more
    | none, some _ => Run.abrupt .beyond
    | none, none =>
      let c ← E.cursor v
      Run.repeating (fun (i : Nat) => do
        match ← E.next c with
        | some v =>
          E.putItems at_ [← E.pairOf i v]
          return .inl (i + 1)
        | none => return .inr ()) E.rounds 0
  E.putItems at_ (named.map fun (k, v) => (.str (pts k), v))

/-- The methods of dictionaries. -/
def dictMethods : List String :=
  ["get", "keys", "values", "items", "pop", "setdefault", "update", "clear", "copy"]

/-- A method of a dictionary. -/
def dictMethod (E : Engine) (at_ : Nat) (items : List (Value × Value)) (x : String)
    (args : List Value) (named : Named) : Run Value := do
  let name := "dict." ++ x
  let put (items : List (Value × Value)) : Run Unit := Run.change fun m => m.setObj at_ (.dict items)
  let key := args[0]?.getD .none
  if x != "update" then noNames name named
  match x with
  | "get" =>
    expects x 1 2 args
    return (← E.lookUp items key).getD (args[1]?.getD .none)
  | "pop" =>
    expects x 1 2 args
    match ← E.lookUp items key, args[1]? with
    | some v, _ =>
      put (← E.withoutItem items key)
      return v
    | none, some v => return v
    | none, none => Run.raiseWith "KeyError" [key]
  | "setdefault" =>
    expects x 1 2 args
    match ← E.lookUp items key with
    | some v => return v
    | none =>
      let v := args[1]?.getD .none
      put (← E.withItem items key v)
      return v
  | "update" =>
    E.updateDict x at_ args named
    return .none
  | "clear" =>
    takesNone name args
    put []
    return .none
  | "copy" =>
    takesNone name args
    Run.alloc (.dict items)
  | x =>
    takesNone name args
    Run.alloc (.view at_ x)

/-! ## Streams -/

/-- The methods that a stream has. -/
def streamMethods : Stream → List String
  | .host _ => shared
  | .null _ => shared
  | _ => "getvalue" :: shared
where
  shared : List String :=
    ["write", "writelines", "flush", "read", "readline", "readlines", "close", "isatty", "readable",
      "writable", "__iter__", "__next__"]

/-- The class from which a stream has a method, as complaints say it. -/
def streamOwner (s : Stream) (x : String) : String :=
  let base := x == "writelines" || x == "readlines"
  match s with
  | .host _ => if x == "write" then "_TextIOBase" else "_IOBase"
  | .null _ => if base then "_IOBase" else "TextIOWrapper"
  | _ => if base || x == "flush" || x == "isatty" then "_IOBase" else "StringIO"

/-- Is the method of a stream for input a function in the language of programs? -/
def isHostMethod (x : String) : Bool :=
  ["readable", "readline", "read", "__iter__", "__next__"].contains x

/-- An argument that says how much is read. -/
def sizeArg (s : Stream) (x : String) (v : Value) : Run Unit := do
  match v.int?, v, s, x with
  | some _, _, _, _ => return ()
  | none, v, .null _, "readline" => do
    let _ ← wholeNumber v
  | none, .none, _, _ => return ()
  | none, v, _, _ =>
    Run.raise "TypeError" ("argument should be integer or None, not '" ++ (← kindOf v) ++ "'")

/-- Checks the arguments of a method of a stream. -/
def streamArgs (self : Value) (s : Stream) (x : String) (args : List Value) (named : Named) : Run Unit := do
  let name := streamOwner s x ++ "." ++ x
  match s, isHostMethod x with
  | .host _, true =>
    let (params, fallbacks) := if x == "readline" || x == "read" then
        (["self", "size"], [none, some (Value.int (-1))])
      else (["self"], [none])
    let _ ← bindArguments ("_HostStdin." ++ x) params none fallbacks (self :: args) named
  | s, _ =>
    match x with
    | "__iter__" => noArguments
    | "__next__" => noArguments
    | x =>
      noNames name named
      match x, s with
      | "write", .host _ => return ()
      | "write", _ => do
        let _ ← takesOne name args
      | "writelines", _ => do
        let _ ← takesOne name args
      | x, s =>
        if x == "readline" || x == "read" || x == "readlines" then
          expects x 0 1 args
          args.forM (sizeArg s x)
        else takesNone name args
where
  noArguments : Run Unit := do
    if !named.isEmpty then Run.abrupt .beyond
    if !args.isEmpty then
      Run.raise "TypeError" ("expected 0 arguments, got " ++ toString args.length)

/-- Puts a text into a stream. What is meant for the captured output of an earlier request is lost. -/
def writeTo (at_ : Nat) (s : Stream) (v : Value) : Run Value := do
  match s, v with
  | .capture serial, .str p =>
    let now ← Run.reading fun m => m.serial
    if serial == now then Run.write p
    return .int p.length
  | .buffer q k, .str p =>
    let after := k + p.length
    Run.change fun m => m.setObj at_ (.stream (.buffer (q.take k ++ p ++ q.drop after) after))
    return .int p.length
  | .null false, .str p => if p.any Points.isSurrogate then Run.abrupt .beyond else return .int p.length
  | .null true, .str _ => cannot "not writable"
  | .host _, _ => cannot "write"
  | .null _, v => Run.raise "TypeError" ("write() argument must be str, not " ++ (← kindOf v))
  | .closed, .str _ => closedStream false
  | _, v => Run.raise "TypeError" ("string argument expected, got '" ++ (← kindOf v) ++ "'")

/-- Puts the items of a value into the stream at a place, one by one. -/
def writeAll (E : Engine) (at_ : Nat) (v : Value) : Run Unit := do
  let c ← E.cursor v
  Run.repeating (fun (_ : Unit) => do
    match ← E.next c with
    | some v =>
      match ← Run.obj at_ with
      | .stream s => do
        let _ ← writeTo at_ s v
        return .inl ()
      | _ => return .inr ()
    | none => return .inr ()) E.rounds ()

/-- Closes a stream that is captured or kept. -/
def closeStream (at_ : Nat) : Stream → Run Value
  | .capture serial => do
    Run.change fun m =>
      { m.setObj at_ (.stream .closed) with closed := m.closed || serial == m.serial }
    return .none
  | .buffer _ _ => do
    Run.change fun m => m.setObj at_ (.stream .closed)
    return .none
  | .closed => return .none
  | _ => Run.abrupt .beyond

/-- Reads from a text that is kept: up to the end of a line, or to its end, but no more than the size that is
given. -/
def readBuffer (at_ : Nat) (p : Points) (k : Nat) (whole : Bool) (size : Option Value) : Run Value := do
  let piece := if whole then p.drop k else lineOf (p.drop k)
  let piece := match size.bind Value.int? with
    | some n => if n < 0 then piece else piece.take n.toNat
    | none => piece
  Run.change fun m => m.setObj at_ (.stream (.buffer p (k + piece.length)))
  return .str piece

/-- What has been put into a stream so far. -/
def contentsOf : Stream → Run Value
  | .capture serial => do
    if serial == (← Run.reading (·.serial)) then return .str (← Run.lookBack) else Run.abrupt .beyond
  | .buffer p _ => return .str p
  | .closed => closedStream false
  | _ => Run.abrupt .beyond

/-- A method of a stream, with the arguments that it takes. -/
def streamRule (E : Engine) (at_ : Nat) (s : Stream) (x : String) (args : List Value) : Run Value := do
  let self := Value.ref at_
  let arg := args.head?
  match x with
  | "write" => writeTo at_ s (arg.getD .none)
  | "writelines" =>
    if s.isClosed then closedStream true
    else
      E.writeAll at_ (arg.getD .none)
      return .none
  | "flush" => return .none
  | "close" => closeStream at_ s
  | "isatty" => if s.isClosed then closedStream true else return .bool false
  | "readable" =>
    match s with
    | .closed => closedStream false
    | .null readable => return .bool readable
    | _ => return .bool true
  | "writable" =>
    match s with
    | .closed => closedStream false
    | .host _ => return .bool false
    | .null readable => return .bool !readable
    | _ => return .bool true
  | "getvalue" => contentsOf s
  | "readline" =>
    match s with
    | .buffer p k => readBuffer at_ p k false arg
    | s => streamLine at_ s
  | "read" =>
    match s with
    | .buffer p k => readBuffer at_ p k true arg
    | .host serial => hostLines serial .all
    | s => streamLine at_ s
  | "readlines" =>
    match (arg.getD .none).int? with
    | some (.ofNat (_ + 1)) => Run.abrupt .beyond
    | _ => do Run.alloc (.list (← E.items self).toArray)
  | "__iter__" => if s.isClosed then closedStream true else return self
  | _ =>
    match ← E.next self with
    | some v => return v
    | none => Run.raiseWith "StopIteration" []

/-- A method of a stream. -/
def streamMethod (E : Engine) (at_ : Nat) (s : Stream) (x : String) (args : List Value) (named : Named) :
    Run Value := do
  streamArgs (.ref at_) s x args named
  E.streamRule at_ s x args

end Engine

end Snippet.Guest
