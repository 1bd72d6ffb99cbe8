import Mathlib.Tactic.Common
import Snippet.Guest.Worker
import Snippet.Proofs.Wire.Frames

/-!
# One request on a worker

`conduct` carries out one request with nobody else about: its source is started, and each question
for input takes the next of a list of values. `Turn` is the shape of what a worker says between two
waits: it asks one question and waits for the answer, or says how the program has ended, or is gone
without a word. The rest of the module says what each frame of a host leads to.
-/

namespace Snippet.Guest

open Snippet.Text Snippet.Wire

variable {μ : Type}

theorem ofNat_inj {j k : Nat} (eq : (Json.ofNat j : Message) = Json.ofNat k) : j = k := by
  injection eq with eq
  injection eq with eq
  exact Int.ofNat_inj.mp eq

/-! ## What notices are about -/

namespace Notice

/-- The request that a notice is about. -/
def request? : Notice → Option Message
  | .ready _ => none
  | .input id _ => some id
  | .done id _ => some id
  | .error id _ _ _ => some id

/-- Is the notice about the request of that number? -/
def regards (k : Nat) (n : Notice) : Bool :=
  match n.request? with
  | some (.num (.int j)) => j == k
  | _ => false

/-- The notice asks for input. -/
def Asks : Notice → Prop
  | .input _ _ => True
  | _ => False

/-- The notice says how a program has ended. -/
def Ends : Notice → Prop
  | .done _ _ => True
  | .error _ _ _ _ => True
  | _ => False

theorem regards_of_request? {n : Notice} {k : Nat} (about : n.request? = some (.ofNat k))
    (j : Nat) :
    n.regards j = (k == j) := by
  have same : ((k : Int) == (j : Int)) = (k == j) := by
    rw [Bool.eq_iff_iff, beq_iff_eq, beq_iff_eq]
    exact Int.ofNat_inj
  rw [regards, about]
  exact same

theorem numbered_of_request? {n : Notice} {k : Nat} (about : n.request? = some (.ofNat k)) :
    n.Numbered := by
  cases n with
  | ready => trivial
  | input => exact ⟨k, Option.some.inj about⟩
  | done => exact ⟨k, Option.some.inj about⟩
  | error => exact ⟨k, Option.some.inj about⟩

end Notice

/-! ## One request alone -/

/-- The answer to the pull of that number: the line of that number, or none after the last. -/
def pull (lines : List String) (j : Nat) : Option String := lines[j]?

/-- An answer for input as a worker sees it. -/
def valueOf (line : Option String) : Message := ((line.map Json.str).getD .null).toPoints

/-- The answers to so many pulls. -/
def pulls (lines : List String) (count : Nat) : List Message :=
  (List.range count).map fun j => valueOf (pull lines j)

theorem pulls_succ (lines : List String) (count : Nat) :
    pulls lines (count + 1) = pulls lines count ++ [valueOf (pull lines count)] := by
  rw [pulls, List.range_succ, List.map_append]
  rfl

/-- A worker at this stage still takes messages. -/
def Stage.Alive : Stage μ → Prop
  | .idle _ => True
  | .asking .. => True
  | .gone _ => False
  | .lost => False

/-- What an answer leads to, where a program waits for one. -/
def Stage.take (value : Message) : Stage μ → Stage μ × List Notice
  | .asking e q gathered resume => Worker.answer e q gathered resume value
  | stage => (stage, [])

/-- A source is run as the request of a number in a world, and each of its pulls takes the next
value. -/
def conduct (P : Programs μ) (world : μ) (k : Nat) (source : String) (values : List Message) :
    Stage μ × List Notice :=
  values.foldl (fun run value => ((run.1.take value).1, run.2 ++ (run.1.take value).2))
    (proceed (.fresh (.ofNat k)) (P (pts source) world))

theorem conduct_snoc (P : Programs μ) (world : μ) (k : Nat) (source : String)
    (values : List Message)
    (value : Message) : conduct P world k source (values ++ [value]) =
      (((conduct P world k source values).1.take value).1,
        (conduct P world k source values).2 ++ ((conduct P world k source values).1.take value).2) := by
  rw [conduct, List.foldl_append]
  rfl

namespace Errand

@[simp] theorem put_id (e : Errand) (p : Points) : (e.put p).id = e.id := by
  rw [put]
  split <;> rfl

@[simp] theorem echo_id (e : Errand) (value : Points) : (e.echo value).id = e.id :=
  e.put_id _

/-- Whatever is heard, it is for the same request. -/
@[simp] theorem hear_id (e : Errand) (q : Question) (gathered : Points) (value : Message) :
    (e.hear q gathered value).1.id = e.id := by
  rw [hear.eq_def]
  split <;> simp

end Errand

/-- What a worker says between two waits about a request, and how it waits after it. -/
inductive Turn (id : Message) : Stage μ → List Notice → Prop where
  | asks {e : Errand} {q : Question} {gathered : Points} {resume : Answer → Play (Fate × μ)}
      (own : e.id = id) (prompt : Points) :
      Turn id (.asking e q gathered resume) [.input id prompt]
  | ends (world : μ) {n : Notice} (last : n.Ends) (own : n.request? = some id) :
      Turn id (.idle world) [n]
  | gone (code : Nat) : Turn id (.gone code) []
  | lost : Turn id .lost []

theorem Fate.settle_turn (e : Errand) (world : μ) (fate : Fate) :
    Turn e.id (fate.settle e world).1 (fate.settle e world).2 := by
  cases fate with
  | finished => exact .ends world trivial rfl
  | raised r => exact .ends world trivial rfl
  | killed code => exact .gone code
  | unknown => exact .lost

theorem proceed_turn (e : Errand) (play : Play (Fate × μ)) :
    Turn e.id (proceed e play).1 (proceed e play).2 := by
  induction play generalizing e with
  | done a => exact Fate.settle_turn e a.2 a.1
  | write p next ih =>
    have turn := ih () (e.put p)
    rwa [Errand.put_id] at turn
  | cut next ih => exact ih () { e with cut := true }
  | lookBack next ih => exact ih e.whole e
  | ask q next ih =>
    rw [proceed]
    split
    next => exact ih _ e
    next => exact .asks rfl q.prompt

theorem answer_turn (e : Errand) (q : Question) (gathered : Points)
    (resume : Answer → Play (Fate × μ)) (value : Message) :
    Turn e.id (Worker.answer e q gathered resume value).1
      (Worker.answer e q gathered resume value).2 := by
  have own := e.hear_id q gathered value
  unfold Worker.answer
  split
  next e' a heard =>
    rw [heard] at own
    exact own ▸ proceed_turn e' (resume a)
  next e' gathered' heard =>
    rw [heard] at own
    exact own ▸ .asks rfl q.prompt

/-! ## What a frame leads to -/

/-- A request as a worker keeps it: its number and its source. -/
def request (x : Nat × String) : List (Points × Message) :=
  [(pts "type", Notice.word "exec"), (pts "id", .ofNat x.1), (pts "code", .str (pts x.2))]

namespace Worker

variable (P : Programs μ)

@[simp] theorem takeUp_nil (stage : Stage μ) : takeUp P [] stage = (⟨stage, []⟩, []) := rfl

theorem takeUp_cons (x : Nat × String) (rest : List (List (Points × Message))) (world : μ) :
    takeUp P (request x :: rest) (.idle world) =
      let run := conduct P world x.1 x.2 []
      let later := takeUp P rest run.1
      (later.1, run.2 ++ later.2) :=
  rfl

theorem takeUp_of_busy {stage : Stage μ} (busy : ∀ world, stage ≠ .idle world)
    (pending : List (List (Points × Message))) :
    takeUp P pending stage = (⟨stage, pending⟩, []) := by
  cases stage with
  | idle world => exact absurd rfl (busy world)
  | asking => cases pending <;> rfl
  | gone => cases pending <;> rfl
  | lost => cases pending <;> rfl

/-- A worker takes a line as the message that it is. -/
theorem hearLine_line (stage : Stage μ) (alive : stage.Alive)
    (pending : List (List (Points × Message))) (frame : HostFrame) :
    hearLine P ⟨stage, pending⟩ frame.line = hear P ⟨stage, pending⟩ frame.toJson.toPoints := by
  rw [hearLine, HostFrame.ofLine?_line]
  cases stage with
  | idle => rfl
  | asking => rfl
  | gone => exact alive.elim
  | lost => exact alive.elim

/-- A worker that is gone, or of whose program nothing is known any more, takes nothing. -/
theorem hearLine_dead {w : Worker μ} (dead : ¬ w.stage.Alive) (line : String) :
    w.hearLine P line = (w, []) := by
  obtain ⟨stage, pending⟩ := w
  cases stage with
  | idle => exact absurd trivial dead
  | asking => exact absurd trivial dead
  | gone => rfl
  | lost => rfl

theorem hearLine_exec_idle (world : μ) (pending : List (List (Points × Message))) (k : Nat)
    (source : String) :
    hearLine P ⟨.idle world, pending⟩ (HostFrame.exec k source).line =
      takeUp P (pending ++ [request (k, source)]) (.idle world) := by
  rw [hearLine_line P (.idle world) trivial]
  rfl

theorem hearLine_exec_asking (e : Errand) (q : Question) (gathered : Points)
    (resume : Answer → Play (Fate × μ)) (pending : List (List (Points × Message))) (k : Nat)
    (source : String) :
    hearLine P ⟨.asking e q gathered resume, pending⟩ (HostFrame.exec k source).line =
      let run := answer e q gathered resume (valueOf none)
      let later := takeUp P (pending ++ [request (k, source)]) run.1
      (later.1, run.2 ++ later.2) := by
  rw [hearLine_line P (.asking ..) trivial]
  rfl

theorem hearLine_reply_idle (world : μ) (pending : List (List (Points × Message))) (k : Nat)
    (value : Option String) :
    hearLine P ⟨.idle world, pending⟩ (HostFrame.inputReply k value).line =
      (⟨.idle world, pending⟩, []) := by
  rw [hearLine_line P (.idle world) trivial]
  rfl

theorem hearLine_reply_asking {e : Errand} {j : Nat} (own : e.id = .ofNat j) (q : Question)
    (gathered : Points) (resume : Answer → Play (Fate × μ))
    (pending : List (List (Points × Message))) (k : Nat) (value : Option String) :
    hearLine P ⟨.asking e q gathered resume, pending⟩ (HostFrame.inputReply k value).line =
      if k = j then
        let run := answer e q gathered resume (valueOf value)
        let later := takeUp P pending run.1
        (later.1, run.2 ++ later.2)
      else (⟨.asking e q gathered resume, pending⟩, []) := by
  have same : Message.same (.ofNat k) e.id = ((k : Int) == (j : Int)) := by
    rw [own]
    rfl
  have heard : hear P ⟨.asking e q gathered resume, pending⟩
      (HostFrame.inputReply k value).toJson.toPoints =
      if (true && Message.same (.ofNat k) e.id) = true then
        let run := answer e q gathered resume (valueOf value)
        let later := takeUp P pending run.1
        (later.1, run.2 ++ later.2)
      else (⟨.asking e q gathered resume, pending⟩, []) := rfl
  have number : (true && Message.same (.ofNat k) e.id) = true ↔ k = j := by
    rw [same, Bool.true_and, beq_iff_eq]
    exact Int.ofNat_inj
  rw [hearLine_line P (.asking ..) trivial, heard]
  simp only [number]

end Worker

end Snippet.Guest
