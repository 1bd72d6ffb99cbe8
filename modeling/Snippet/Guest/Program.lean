import Snippet.Guest.Evaluate
/-!
A program from its source to its end.

The programs of one interpreter share a machine. Each one begins with names of its own, an output and an
input that belong to its request, and a function that asks for input; what the machine had in their
places before is put back afterwards, however the program ends.
-/

namespace Snippet.Guest

open Snippet.Text

/-! ## Failures in words -/

/-- A failure that is known by its words. -/
def Raised.ofWords (kind text : String) (trace : Points) : Raised := ⟨pts kind, pts text, trace⟩

/-- What is said of a source that cannot be read. -/
def Complaint.raised (c : Complaint) : Raised :=
  let text := match c.line with
    | some line => c.message ++ " (<main>, line " ++ toString line ++ ")"
    | none => c.message
  .ofWords c.kind text (pts (c.kind ++ ": " ++ c.message ++ "\n"))

/-- What is said of a source with a surrogate that has no other half. -/
def surrogateFailure (source : Points) : Raised :=
  let before := source.takeWhile fun n => !Points.isSurrogate n
  let run := (source.drop before.length).takeWhile Points.isSurrogate
  let from_ := before.length
  let text := match run with
    | [n] => "'utf-8' codec can't encode character '\\u" ++ hexPadded 4 n ++ "' in position " ++
        toString from_ ++ ": surrogates not allowed"
    | _ => "'utf-8' codec can't encode characters in position " ++ toString from_ ++ "-" ++
        toString (from_ + run.length - 1) ++ ": surrogates not allowed"
  .ofWords "UnicodeEncodeError" text (pts ("UnicodeEncodeError: " ++ text ++ "\n"))

/-- The name of the class of an exception at the end of a trace. -/
def tracedName (m : Machine) (c : Value) : Points :=
  match c with
  | .cls "UnsupportedOperation" => pts "io.UnsupportedOperation"
  | .cls name => pts name
  | c =>
    match m.ownAttr? c "__qualname__" with
    | some (.str p) => p
    | _ => pts (m.className c)

namespace Engine

/-- A text; where asking for it fails, another one stands in. -/
def textOr (r : Run Points) (instead : String) : Run Points := do
  match ← Run.attempt r with
  | .ok p => return p
  | .error (.raised _) => return pts instead
  | .error e => Run.abrupt e

/-- What a trace keeps of an exception. -/
structure Traced where
  kind : Value
  text : Points
  /-- the message, if it is an exception of grammar -/
  message : Option Value
  notes : Value

/-- What a trace keeps of an exception. Its text is asked for, but need not be had. -/
def traced (E : Engine) (exception : Value) : Run Traced := do
  let text ← textOr (E.text exception) "<exception str() failed>"
  let m ← Run.reading id
  let kind := m.classOf exception
  let notes := (attr? m exception "__notes__").getD .none
  if m.below kind (.cls "SyntaxError") then
    -- where something went wrong in a source would be told as well
    let places := (leftOutFields.filter fun f => f.1 == "SyntaxError").flatMap (·.2)
    if places.any fun x => (m.classAttr? kind x).isSome then Run.abrupt .beyond
    return ⟨kind, text, attr? m exception "msg", notes⟩
  else return ⟨kind, text, none, notes⟩

/-- Something that is kept with an exception, if it is another exception that a trace has not told yet. -/
def untoldField? (m : Machine) (exception : Value) (x : String) (told : List Value) : Option Value :=
  match m.field? exception x with
  | some (.ref at_) => if told.any (Machine.sameObject (.ref at_)) then none else some (.ref at_)
  | _ => none

/-- What a trace keeps of the exceptions that another one goes back to, the nearest first: its cause, or what was
handled when it came up. The exception is asked whether it counts as true, each time before that is looked at. -/
def tracedBefore (E : Engine) : Nat → Value → List Value → Run (List Traced)
  | 0, _, _ => Run.abrupt .beyond
  | n + 1, exception, told => do
    let untold (x : String) : Run (Option Value) := do
      if ← E.truth exception then Run.reading fun m => untoldField? m exception x told else return none
    match ← untold "__cause__" with
    | some cause =>
      let t ← E.traced cause
      let _ ← E.truth exception
      let _ ← E.truth exception
      return t :: (← tracedBefore E n cause (cause :: told))
    | none =>
      let suppressed ← Run.reading fun m => m.field? exception "__suppress_context__"
      match ← untold "__context__", suppressed with
      | _, some (.bool true) =>
        let _ ← E.truth exception
        return []
      | none, _ =>
        let _ ← E.truth exception
        return []
      | some context, _ =>
        let t ← E.traced context
        let _ ← E.truth exception
        return t :: (← tracedBefore E n context (context :: told))

/-- The notes of an exception, each with a line end after it; what is no sequence of them has none. -/
def notesText (E : Engine) (notes : Value) : Run Points := do
  let isRow : Bool ← match notes with
    | .range .. => pure true
    | v => isSequence v
  if notes matches .none then return []
  else if isRow then
    let ps ← (← E.items notes).mapM fun note => textOr (E.text note) "<note str() failed>"
    return ps.flatMap (· ++ [10])
  else textOr (E.shown notes) "<__notes__ repr() failed>"

/-- What a trace says of an exception. -/
def Traced.told (E : Engine) (t : Traced) : Run Points := do
  let name ← Run.reading fun m => tracedName m t.kind
  let line ← match t.message with
    | none => pure (if t.text.isEmpty then name else name ++ pts ": " ++ t.text)
    | some message =>
      let detail ← if ← E.truth message then E.formatted message [] else pure (pts "<no detail available>")
      pure (name ++ pts ": " ++ detail)
  return line ++ 10 :: (← E.notesText t.notes)

/-- How many exceptions a trace goes back to. -/
def traceLimit : Nat := 100

/-- The end of the trace of an exception. Those that it goes back to are told first. -/
def traceOf (E : Engine) (exception : Value) : Run Points := do
  let t ← E.traced exception
  let before ← E.tracedBefore traceLimit exception [exception]
  let _ ← before.reverse.mapM fun t => t.told E
  t.told E

/-- An exception in words; the output is cut off before. -/
def inWords (E : Engine) (exception : Value) : Run Raised := do
  let kind ← Run.reading fun m => pts (m.typeName exception)
  Run.cut
  let text ← E.formatted exception []
  return ⟨kind, text, ← E.traceOf exception⟩

/-- Does an exception ask to end the program without a complaint? -/
def asksToEnd (E : Engine) (exception : Value) : Run Bool := do
  if ← Run.reading fun m => m.below (m.classOf exception) (.cls "SystemExit") then
    let code ← getAttr exception "code"
    if ← E.equal compareDepth .none code then return true else E.equal compareDepth (.int 0) code
  else return false

/-- An end of a program is told with its output. If that has been closed, the interpreter fails. -/
def withOutput (told : Run Fate) : Run Fate := do
  if ← Run.reading (·.closed) then Run.abrupt (.killed 1) else told

/-- How a program ended, given how its statements did. One that asks to end without a complaint has
finished. -/
def fateOf (E : Engine) : Except Abrupt Completion → Run Fate
  | .ok _ => withOutput (return .finished)
  | .error (.raised exception) =>
    whileHandling exception do
      if ← E.asksToEnd exception then withOutput (return .finished)
      else withOutput (do return .raised (← E.inWords exception))
  | .error e => Run.abrupt e

end Engine

/-! ## Programs -/

/-- How many trips through the engine evaluation may take, one inside another. -/
def engineBudget : Nat := 100000

/-- The machine in the surroundings of the next request, and a scope for its names: what is written and
asked goes outside. -/
def Machine.openRequest (m : Machine) : Nat × Machine :=
  let serial := m.serial + 1
  let (capture, m) := m.alloc (.stream (.capture serial))
  let (host, m) := m.alloc (.stream (.host serial))
  let m :=
    { m with
      serial, closed := false, depth := 0, handling := []
      surroundings := ⟨some (.ref capture), some (.ref host), some (.asker serial)⟩ }
  m.openScope [("__name__", .str (pts "__main__"))]

/-- The code with which an exception that nobody catches ends the interpreter; one for an interrupt ends it by a
signal, which a shell gives that code. -/
def exitCode (m : Machine) (exception : Value) : Nat :=
  if m.below (m.classOf exception) (.cls "SystemExit") then
    match Engine.attr? m exception "code" with
    | some .none => 0
    | some (.bool b) => b.toNat
    | some (.int n) => if 9223372036854775807 < n.natAbs then 255 else (n % 256).toNat
    | _ => 1
  else if m.below (m.classOf exception) (.cls "KeyboardInterrupt") then 130
  else 1

/-- A program's end: the machine is put back into surroundings. An exception that comes up while the end is
told takes the interpreter along. -/
def endIn (s : Surroundings) : Except Abrupt Fate × Machine → Fate × Machine
  | (.ok fate, m) => (fate, { m with surroundings := s })
  | (.error (.killed code), m) => (.killed code, { m with surroundings := s })
  | (.error (.raised exception), m) => (.killed (exitCode m exception), { m with surroundings := s })
  | (.error .beyond, m) => (.unknown, { m with surroundings := s })

/-- The frame of a program's statements. -/
def topFrame (scope : Nat) : Frame :=
  { scope, locals := none, outer := [], globals := scope, owner := none, receiver := none, path := "" }

/-- Runs statements as a program. -/
def runStatements (body : List Stmt) (m : Machine) : Play (Fate × Machine) :=
  let E := engine engineBudget
  let (scope, opened) := m.openRequest
  let program : Run Fate := do
    let ending ← Run.attempt (E.exec (topFrame scope) body)
    E.fateOf ending
  (program opened).bind fun ending => .done (endIn m.surroundings ending)

/-- Runs a source as a program. -/
def runSource (source : Points) (m : Machine) : Play (Fate × Machine) :=
  match source.toString? with
  | none => .done (.raised (surrogateFailure source), m)
  | some s =>
    match parseProgram s with
    | .error (.wrong c) => .done (.raised c.raised, m)
    | .error .beyond => .done (.unknown, m)
    | .ok body => runStatements body m

end Snippet.Guest
