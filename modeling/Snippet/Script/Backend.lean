import Snippet.Script.Evaluate
import Snippet.Failure
/-!
The script backend: a script against captured output and the input lines of a request.

`play` is the whole script as a play that ends in a verdict; `ending` carries it out. A script that ends
in any way of its own keeps what it put out. Only when the engine itself stops nothing is kept.
-/

namespace Snippet.Script

open Snippet.Text

/-- What is said of why the engine stopped. -/
def Stop.message : Stop → String
  | .unshowable _ => "not yet implemented: undefined to JSON"
  | .outOfBudget => "execution budget exhausted"

/-- How a script ended. -/
inductive Verdict where
  /-- it ran to its end; its last value is shown unless it is undefined -/
  | finished (shown : Option String)
  /-- an exception was not caught -/
  | failed (detail : ErrorDetail)
  /-- the engine stopped -/
  | stopped (cause : Stop)

/-- How far evaluation may go. -/
def budget : Nat := 1000000000

/-! ## Exceptions that nothing caught -/

/-- An exception of a kind, with its message unless there is nothing to see in it. -/
def exceptionText (kind message : String) : String :=
  let message := trim message
  if message.isEmpty then kind else kind ++ ": " ++ message

/-- What is said when too many functions are running. -/
def tooDeepText : String :=
  exceptionText "RuntimeLimit" "exceeded maximum number of recursive calls"

namespace Engine

/-- A value that was thrown, in words: an error by its kind and message, all else in the display form. -/
def thrownText (E : Engine) (v : Value) : Run String := do
  let m ← Run.machine
  match v with
  | .object at_ =>
    match (m.obj at_).kind with
    | .error kind =>
      match ← (E.get v (Units.ofString "message")).attempt with
      | .ok (.str s) =>
        match s.toString? with
        | some message => return exceptionText kind.reported message
        | none => return (← Run.machine).display v
      | .ok .undefined => return exceptionText kind.reported ""
      | _ => return (← Run.machine).display v
    | _ => return m.display v
  | v => return m.display v

/-- The trace that a thrown value carries, if it carries one. -/
def traceOf (E : Engine) (v : Value) : Run (Option String) := do
  match v with
  | .object _ =>
    match ← (E.get v (Units.ofString "stack")).attempt with
    | .ok .undefined => return none
    | .ok stack => return some (← E.shownText stack)
    | .error _ => return none
  | _ => return none

/-- What is reported of a script that an exception ended. -/
def describe (E : Engine) : Abrupt → Run ErrorDetail
  | .thrown v => do
    let message ← E.thrownText v
    return (ErrorDetail.ofMessage message).withTrace (← E.traceOf v)
  | .raised kind message => return .ofMessage (exceptionText kind.reported message)
  | .tooDeep => return .ofMessage tooDeepText

/-! ## Whole scripts -/

/-- Gives a script the names that it declares. -/
def declareTop (body : List Stmt) (strict : Bool) : Run Frame := do
  let fr : Frame := ⟨Realm.topScope, .object Realm.globals, strict⟩
  let _ ← (body.flatMap Stmt.lexicalNames).mapM fun (x, mutable) =>
    Run.change fun m => m.declare Realm.topScope x ⟨none, mutable⟩
  let _ ← (Stmt.varNamesOf body).mapM fun x => Run.change fun m =>
    let key := Units.ofString x
    if ((m.obj Realm.globals).own? key).isSome then m
    else m.put Realm.globals key ⟨.data .undefined, true, true, false⟩
  let _ ← (Stmt.functionsOf body).mapM fun f => do
    let v ← makeFunction fr f
    Run.change fun m => m.put Realm.globals (Units.ofString f.name) ⟨.data v, true, true, false⟩
  return fr

/-- The value that a completion leaves. -/
def completionValue : Completion → Value
  | .normal v => v.getD .undefined
  | .broke v => v.getD .undefined
  | .continued v => v.getD .undefined
  | .returned v => v

/-- A whole script, up to its verdict. -/
def script (E : Engine) (body : List Stmt) : Run Verdict := do
  let ending ← Run.attempt (do
    let fr ← declareTop body (isStrictBody body)
    return completionValue (← E.execAll fr none body))
  match ending with
  | .ok .undefined => return .finished none
  | .ok v => return .finished (some (← E.rendered v))
  | .error e => return .failed (← E.describe e)

end Engine

/-- The verdict that a computation comes to. -/
def Verdict.of : Except Stop (Except Abrupt Verdict × Machine) → Verdict
  | .ok (.ok v, _) => v
  | .ok (.error _, _) => .stopped .outOfBudget
  | .error cause => .stopped cause

/-- A script as a play. -/
def play (source : String) : Play Verdict :=
  match parseScript source with
  | .error c => .done (.failed (.ofMessage (exceptionText "SyntaxError" c.message)))
  | .ok body => ((engine budget budget).script body Realm.machine).bind fun ending => .done (.of ending)

/-- What is said of an engine that stopped. -/
def stoppedText (cause : Stop) : String :=
  "script engine stopped: task N panicked with message \"" ++ cause.message ++ "\""

/-- The ending of a script that came to a verdict on a host. -/
def Verdict.ending : Verdict → Play.Host → Ending
  | .finished none, h => .done (h.capture.success h.cursor.position)
  | .finished (some text), h =>
    .done { (h.capture.push .result text).success h.cursor.position with returnPreview := some text }
  | .failed detail, h => .done (h.capture.runtimeError detail h.cursor.position)
  | .stopped cause, _ => .failed (.fault (stoppedText cause))

/-- The ending of a play on input lines. -/
def Play.ending (p : Play Verdict) (lines : List String) : Ending :=
  let (verdict, host) := p.run (.ofLines lines)
  verdict.ending host

/-- The ending of a script request. -/
def ending (r : Request) : Ending := (play r.source).ending r.stdin

end Snippet.Script
