import Snippet.Guest.Notice
import Snippet.Guest.Play
/-!
A worker: it takes requests to run sources, one at a time, and carries the programs out.

The worker knows programs only as plays over a state that they share. While a program waits for input the
worker waits with it; a new request that comes in between ends the wait without input and has its turn
afterwards. `hear` says what one message leads to, and `close` what the end of all messages leads to.
-/

namespace Snippet.Guest

open Snippet.Text

/-- The prompt under which a line is asked for. -/
def Question.prompt : Question → Points
  | .input prompt => prompt
  | _ => []

/-- Is the question for what is left of the lines, which stays without an answer once they have come to
their end? -/
def Question.reads : Question → Bool
  | .line => true
  | .silent => true
  | .all => true
  | _ => false

/-- A request that is being carried out. -/
structure Errand where
  id : Message
  /-- what has been put out, the latest first -/
  output : List Points
  /-- reading lines has come to the end -/
  exhausted : Bool
  /-- the output has been cut off -/
  cut : Bool
  /-- what has been put out since then, the latest first -/
  since : List Points
  deriving Repr

namespace Errand

/-- The errand of a request that has just been taken up. -/
def fresh (id : Message) : Errand := ⟨id, [], false, false, []⟩

/-- The errand with more output. -/
def put (e : Errand) (p : Points) : Errand :=
  if e.cut then { e with since := p :: e.since } else { e with output := p :: e.output }

/-- The output up to where it was cut off. -/
def text (e : Errand) : Points := e.output.reverse.flatten

/-- All that has been put out. -/
def whole (e : Errand) : Points := e.text ++ e.since.reverse.flatten

/-- The echo of an input line. -/
def echo (e : Errand) (value : Points) : Errand := e.put (echoOf [] value)

/-- What an input line, or a value in its place, comes to: the answer to a question, or, for a question for
all lines, one more line that is gathered. -/
def hear (e : Errand) (q : Question) (gathered : Points) (value : Message) : Errand × (Answer ⊕ Points) :=
  match value, q with
  | .null, .input _ => (e, .inl (.value .null))
  | .null, _ => ({ e with exhausted := true }, .inl (.text gathered))
  | .str p, .input _ => (e, .inl (.text p))
  | .str p, .line => (e.echo p, .inl (.text (p ++ [10])))
  | .str p, .silent => (e, .inl (.text (p ++ [10])))
  | .str p, .all => (e.echo p, .inr (gathered ++ p ++ [10]))
  | v, .input _ => (e, .inl (.value v))
  | v, .silent => (e, .inl (.value v))
  | v, _ => (e.echo (Message.spoken false v), .inl (.value v))

end Errand

/-- What a worker does at the moment. -/
inductive Stage (μ : Type) where
  /-- it waits for a request -/
  | idle (world : μ)
  /-- a program waits for an answer; lines that a longer question has gathered so far are kept -/
  | asking (errand : Errand) (question : Question) (gathered : Points)
    (resume : Answer → Play (Fate × μ))
  /-- it has ended with a code -/
  | gone (code : Nat)
  /-- nothing is said of what its program does -/
  | lost

/-- The code with which a worker has ended. -/
def Stage.exit? {μ : Type} : Stage μ → Option Nat
  | .gone code => some code
  | _ => none

/-- A worker. -/
structure Worker (μ : Type) where
  stage : Stage μ
  /-- requests that came while a program was waiting, the earliest first -/
  pending : List (List (Points × Message))

/-- How programs run: from a source and the state that they share. -/
abbrev Programs (μ : Type) := Points → μ → Play (Fate × μ)

variable {μ : Type}

/-- What is said of a failure. -/
def Raised.message (r : Raised) : Points := r.kind ++ pts ": " ++ r.text

/-- The trace of a failure. -/
def Raised.report (r : Raised) : Points :=
  pts "Traceback (most recent call last):\n" ++ r.trace

/-- What the end of a program leads to. -/
def Fate.settle (e : Errand) (world : μ) : Fate → Stage μ × List Notice
  | .finished => (.idle world, [.done e.id e.text])
  | .raised r => (.idle world, [.error e.id e.text r.message r.report])
  | .killed code => (.gone code, [])
  | .unknown => (.lost, [])

/-- Carries a program out up to its next question or its end. Where reading lines has come to the end, no
more lines are asked for. -/
def proceed (e : Errand) : Play (Fate × μ) → Stage μ × List Notice
  | .done (fate, world) => fate.settle e world
  | .write p next => proceed (e.put p) (next ())
  | .cut next => proceed { e with cut := true } (next ())
  | .lookBack next => proceed e (next e.whole)
  | .ask q next =>
    if q.reads && e.exhausted then proceed e (next (.text []))
    else (.asking e q [] next, [.input e.id q.prompt])

/-- Carries a program out to its end when there is nobody left to answer. -/
def proceedAlone (e : Errand) : Play (Fate × μ) → Stage μ × List Notice
  | .done (fate, world) => fate.settle e world
  | .write p next => proceedAlone (e.put p) (next ())
  | .cut next => proceedAlone { e with cut := true } (next ())
  | .lookBack next => proceedAlone e (next e.whole)
  | .ask q next =>
    if q.reads && e.exhausted then proceedAlone e (next (.text []))
    else
      let (stage, notices) := proceedAlone e (next .closed)
      (stage, .input e.id q.prompt :: notices)

/-- How a program that is given as a value runs. -/
def Programs.start (P : Programs μ) (world : μ) : Message → Play (Fate × μ)
  | .str source => P source world
  | _ =>
    let text := "compile() arg 1 must be a string, bytes or AST object"
    .done (.raised ⟨pts "TypeError", pts text, pts ("TypeError: " ++ text ++ "\n")⟩, world)

/-- The errand of a request. -/
def Errand.ofRequest (members : List (Points × Message)) : Errand :=
  .fresh (Message.member members "id" (.num (.int 0)))

/-- The source of a request. -/
def sourceOf (members : List (Points × Message)) : Message := Message.member members "code" (.str [])

namespace Worker

/-- A worker that has just begun, and its first notice. -/
def start (world : μ) (version : Points) : Worker μ × List Notice :=
  (⟨.idle world, []⟩, [.ready version])

/-- Takes up pending requests until a program asks for something. -/
def takeUp (P : Programs μ) : List (List (Points × Message)) → Stage μ → Worker μ × List Notice
  | request :: rest, .idle world =>
    let (stage, first) := proceed (.ofRequest request) (P.start world (sourceOf request))
    let (worker, more) := takeUp P rest stage
    (worker, first ++ more)
  | pending, stage => (⟨stage, pending⟩, [])

/-- What an input line, or a value in its place, leads to. -/
def answer (e : Errand) (q : Question) (gathered : Points) (resume : Answer → Play (Fate × μ))
    (value : Message) : Stage μ × List Notice :=
  match e.hear q gathered value with
  | (e, .inl a) => proceed e (resume a)
  | (e, .inr gathered) => (.asking e q gathered resume, [.input e.id q.prompt])

/-- A turn of the program at hand, and pending requests after it. -/
def afterTurn (P : Programs μ) (pending : List (List (Points × Message)))
    (turn : Stage μ × List Notice) : Worker μ × List Notice :=
  let (worker, more) := takeUp P pending turn.1
  (worker, turn.2 ++ more)

/-- What a message leads to. -/
def hear (P : Programs μ) (w : Worker μ) (message : Message) : Worker μ × List Notice :=
  match w.stage, message with
  | .idle _, .obj members =>
    if (Message.member members "type" .null |> Message.isWord "exec") then
      takeUp P (w.pending ++ [members]) w.stage
    else (w, [])
  | .idle _, _ => (⟨.gone 1, w.pending⟩, [])
  | .asking e q gathered resume, .obj members =>
    let kind := Message.member members "type" .null
    if Message.isWord "input_reply" kind && Message.same (Message.member members "id" .null) e.id then
      afterTurn P w.pending (answer e q gathered resume (Message.member members "value" .null))
    else if Message.isWord "exec" kind then
      afterTurn P (w.pending ++ [members]) (answer e q gathered resume .null)
    else (w, [])
  | .asking e _ _ resume, v => afterTurn P w.pending (proceed e (resume (.misread v)))
  | _, _ => (w, [])

/-- What a line leads to. One that is no message ends a worker that waits for a request; a program that waits
for an answer gets it instead of one. -/
def hearLine (P : Programs μ) (w : Worker μ) (line : String) : Worker μ × List Notice :=
  match w.stage, Message.ofLine? line with
  | .gone _, _ => (w, [])
  | .lost, _ => (w, [])
  | _, some message => w.hear P message
  | .asking e _ _ resume, none => afterTurn P w.pending (proceed e (resume .garbled))
  | .idle _, none => (⟨.gone 1, w.pending⟩, [])

/-- What pending requests come to when there is nobody left to answer. -/
def takeUpAlone (P : Programs μ) : List (List (Points × Message)) → Stage μ → Stage μ × List Notice
  | request :: rest, .idle world =>
    let (stage, first) := proceedAlone (.ofRequest request) (P.start world (sourceOf request))
    let (stage, more) := takeUpAlone P rest stage
    (stage, first ++ more)
  | [], .idle _ => (.gone 0, [])
  | _, stage => (stage, [])

/-- What the end of all messages leads to. -/
def close (P : Programs μ) (w : Worker μ) : Stage μ × List Notice :=
  let (stage, first) := match w.stage with
    | .asking e _ _ resume => proceedAlone e (resume .closed)
    | stage => (stage, [])
  let (stage, more) := takeUpAlone P w.pending stage
  (stage, first ++ more)

/-- All messages and then the end: every notice, and the worker in the end. -/
def attend (P : Programs μ) : Worker μ → List Message → Stage μ × List Notice
  | w, [] => w.close P
  | w, message :: rest =>
    let (w, first) := w.hear P message
    let (stage, more) := attend P w rest
    (stage, first ++ more)

end Worker

end Snippet.Guest
