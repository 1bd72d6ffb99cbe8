import Snippet.Proofs.Guest.Link
import Snippet.Proofs.Request.Cursor

/-!
# Where a request stands

`Runs` says how a worker stands after requests that have been carried out one after another. `Phase` is
where the request that holds the pipe stands: between the two sides there is at most one thing that
concerns it, a question or a reply. The lemmas say how it goes on when the worker takes a frame and when
the host reads a notice.
-/

namespace Snippet.Guest

open Snippet.Text Snippet.Wire

variable {μ : Type} {P : Programs μ}

/-- The request that a frame asks to be run, with its source. -/
def execOf? : HostFrame → Option (Nat × String)
  | .exec id code => some (id, code)
  | .inputReply _ _ => none

/-- Is the frame a reply to the request of that number? -/
def repliesTo (k : Nat) : HostFrame → Bool
  | .exec _ _ => false
  | .inputReply id _ => id == k

/-- A program of the request of that number waits for input. -/
def Stage.Busy (k : Nat) : Stage μ → Prop
  | .asking e _ _ _ => e.id = .ofNat k
  | _ => False

theorem Stage.Busy.unique {stage : Stage μ} {j k : Nat} (one : stage.Busy j)
    (other : stage.Busy k) :
    j = k := by
  cases stage with
  | asking e q gathered resume => exact ofNat_inj (one.symm.trans other)
  | idle => exact one.elim
  | gone => exact one.elim
  | lost => exact one.elim

theorem Stage.Busy.alive {stage : Stage μ} {k : Nat} (busy : stage.Busy k) : stage.Alive := by
  cases stage with
  | asking => trivial
  | idle => exact busy.elim
  | gone => exact busy.elim
  | lost => exact busy.elim

namespace Turn

variable {k n : Nat} {stage : Stage μ} {notices : List Notice}

theorem busy (turn : Turn (.ofNat k) stage notices) (busy : stage.Busy n) : n = k := by
  cases turn with
  | asks own => exact ofNat_inj (busy.symm.trans own)
  | ends => exact busy.elim
  | gone => exact busy.elim
  | lost => exact busy.elim

theorem about (turn : Turn (.ofNat k) stage notices) {m : Notice} (mem : m ∈ notices) :
    m.request? = some (.ofNat k) := by
  cases turn with
  | asks own => rw [List.mem_singleton.mp mem, Notice.request?]
  | ends _ _ own => rw [List.mem_singleton.mp mem, own]
  | gone => cases mem
  | lost => cases mem

theorem filter_self (turn : Turn (.ofNat k) stage notices) :
    notices.filter (Notice.regards k) = notices := by
  refine List.filter_eq_self.mpr fun m mem => ?_
  rw [Notice.regards_of_request? (turn.about mem), beq_self_eq_true]

theorem filter_other (turn : Turn (.ofNat k) stage notices) (other : n ≠ k) :
    notices.filter (Notice.regards n) = [] := by
  refine List.filter_eq_nil_iff.mpr fun m mem => ?_
  rw [Notice.regards_of_request? (turn.about mem), beq_iff_eq]
  exact other.symm

end Turn

/-! ## Where a request stands -/

/-- Requests have been carried out one after another, the first in a world, each later one in the
world that the one before it has left: how the worker stands after the last one, and what it has
said. Questions may have been answered with anything. -/
inductive Runs (P : Programs μ) (requests : List (Nat × Request)) (world : μ) :
    Stage μ → List Notice → Prop where
  | none : Runs P requests world (.idle world) []
  | next {before : μ} {said : List Notice} (earlier : Runs P requests world (.idle before) said)
      {k : Nat} {r : Request} (own : (k, r) ∈ requests) (values : List Message) :
      Runs P requests world (conduct P before k r.source values).1
        (said ++ (conduct P before k r.source values).2)

/-- The request at hand goes on with an answer. -/
theorem Runs.take {requests : List (Nat × Request)} {world : μ} {stage : Stage μ}
    {said : List Notice}
    (runs : Runs P requests world stage said) (value : Message) :
    Runs P requests world (stage.take value).1 (said ++ (stage.take value).2) := by
  cases runs with
  | none => exact .none
  | next earlier own values =>
    have more := Runs.next earlier own (values ++ [value])
    rw [conduct_snoc, ← List.append_assoc] at more
    exact more

theorem Runs.mono {requests requests' : List (Nat × Request)} {world : μ} {stage : Stage μ}
    {said : List Notice} (runs : Runs P requests world stage said)
    (more : ∀ a ∈ requests, a ∈ requests') : Runs P requests' world stage said := by
  induction runs with
  | none => exact .none
  | next _ own values ih => exact .next ih (more _ own) values

/-- The source of a request has been run, in a world that it may be run in, as far as `asked` and
`last` tell: each question in `asked` has been answered with the next of its own lines. -/
def Conducted (P : Programs μ) (worlds : μ → Prop) (n : Nat) (r : Request) (stage : Stage μ)
    (asked : List Notice) (last : Notice) : Prop :=
  (∀ m ∈ asked, m.Asks) ∧ ∃ world, worlds world ∧
    conduct P world n r.source (pulls r.stdin asked.length) = (stage, asked ++ [last])

theorem Conducted.mono {worlds worlds' : μ → Prop} {n : Nat} {r : Request} {stage : Stage μ}
    {asked : List Notice} {last : Notice} (conducted : Conducted P worlds n r stage asked last)
    (more : ∀ world, worlds world → worlds' world) : Conducted P worlds' n r stage asked last := by
  obtain ⟨asks, world, begins, conducted⟩ := conducted
  exact ⟨asks, world, more world begins, conducted⟩

/-- Where the request that holds the pipe stands: its number, what it is, the stage of the worker,
what the worker has said about it and what of that the host has not read, the replies to it that the
worker has not taken, whether it waits to be taken up, and how many of its lines have been handed
out. -/
inductive Phase (P : Programs μ) (worlds : μ → Prop) (n : Nat) (r : Request) (stage : Stage μ) :
    (said unread : List Notice) → (replies : List HostFrame) → (queued : Prop) → Nat → Prop where
  /-- it waits to be taken up -/
  | waits {queued : Prop} (waits : queued) : Phase P worlds n r stage [] [] [] queued 0
  /-- it has asked for input, and the host has not read it -/
  | asks {asked : List Notice} {prompt : Points} {queued : Prop} (busy : stage.Busy n)
      (conducted : Conducted P worlds n r stage asked (.input (.ofNat n) prompt)) :
      Phase P worlds n r stage (asked ++ [.input (.ofNat n) prompt]) [.input (.ofNat n) prompt] [] queued
        (min asked.length r.stdin.length)
  /-- it has asked for input, and the reply is on its way -/
  | replied {asked : List Notice} {prompt : Points} {queued : Prop} (busy : stage.Busy n)
      (conducted : Conducted P worlds n r stage asked (.input (.ofNat n) prompt)) :
      Phase P worlds n r stage (asked ++ [.input (.ofNat n) prompt]) []
        [.inputReply n (pull r.stdin asked.length)] queued
        (min (asked.length + 1) r.stdin.length)
  /-- it has come to its end, and the host has not read it -/
  | ended {asked : List Notice} {last : Notice} {queued : Prop} {world : μ} {position : Nat}
      (begun : ¬ queued) (idle : ¬ stage.Busy n)
      (conducted : Conducted P worlds n r (.idle world) asked last) (ends : last.Ends) :
      Phase P worlds n r stage (asked ++ [last]) [last] [] queued position
  /-- nothing concerns it any more: the host cannot read what the worker has said, or the worker is
  gone -/
  | lost {said : List Notice} {queued : Prop} {position : Nat} (begun : ¬ queued) :
      Phase P worlds n r stage said [] [] queued position

/-- Where a request stands does not depend on what the worker does for others. -/
theorem Phase.of_stage {n : Nat} {r : Request} {stage stage' : Stage μ} {said unread : List Notice}
    {replies : List HostFrame} {queued queued' : Prop} {position : Nat}
    (phase : Phase P worlds n r stage said unread replies queued position)
    (queue : queued' ↔ queued)
    (keeps : stage.Busy n → stage' = stage) (new : stage'.Busy n → stage.Busy n) :
    Phase P worlds n r stage' said unread replies queued' position := by
  rw [propext queue]
  cases phase with
  | waits waits => exact .waits waits
  | asks busy conducted =>
    rw [keeps busy]
    exact .asks busy conducted
  | replied busy conducted =>
    rw [keeps busy]
    exact .replied busy conducted
  | ended begun idle conducted ends => exact .ended begun (fun busy => idle (new busy)) conducted ends
  | lost begun => exact .lost begun

/-- Only a program that waits for input has a reply on its way. -/
theorem Phase.busy {n : Nat} {r : Request} {stage : Stage μ} {said unread : List Notice}
    {reply : HostFrame} {replies : List HostFrame} {queued : Prop} {position : Nat}
    (phase : Phase P worlds n r stage said unread (reply :: replies) queued position) :
    stage.Busy n := by
  cases phase with
  | replied busy _ => exact busy

/-- There is at most one thing between the two sides that concerns a request. -/
theorem Phase.of_unread {n : Nat} {r : Request} {stage : Stage μ} {said unread : List Notice}
    {m : Notice}
    {replies : List HostFrame} {queued : Prop} {position : Nat}
    (phase : Phase P worlds n r stage said (m :: unread) replies queued position) :
    unread = [] ∧ replies = [] := by
  cases phase with
  | asks => exact ⟨rfl, rfl⟩
  | ended => exact ⟨rfl, rfl⟩

/-- A question that the host reads is followed by the reply with the next line. -/
theorem Phase.of_question {n : Nat} {r : Request} {stage : Stage μ} {said unread : List Notice}
    {m : Notice}
    {replies : List HostFrame} {queued : Prop} {position : Nat}
    (phase : Phase P worlds n r stage said (m :: unread) replies queued position) (asks : m.Asks) :
    Phase P worlds n r stage said [] [.inputReply n (LineCursor.mk r.stdin position).next.1] queued
      (LineCursor.mk r.stdin position).next.2.position := by
  cases phase with
  | @asks questions _ _ busy conducted =>
    have next := LineCursor.next_asked r.stdin questions.length
    rw [LineCursor.asked] at next
    rw [next]
    exact .replied busy conducted
  | @ended questions _ _ _ _ _ _ _ ends =>
    cases m with
    | input => exact ends.elim
    | ready => exact asks.elim
    | done => exact asks.elim
    | error => exact asks.elim

/-- When the host reads how a request has ended, all of the request has been carried out. -/
theorem Phase.of_end {n : Nat} {r : Request} {stage : Stage μ} {said unread : List Notice}
    {m : Notice}
    {replies : List HostFrame} {queued : Prop} {position : Nat}
    (phase : Phase P worlds n r stage said (m :: unread) replies queued position) (ends : m.Ends) :
    ¬ stage.Busy n ∧
      ∃ asked world, Conducted P worlds n r (.idle world) asked m ∧ said = asked ++ [m] := by
  cases phase with
  | asks => exact ends.elim
  | ended _ idle conducted _ => exact ⟨idle, _, _, conducted, rfl⟩

/-- A request that waits to be taken up has nothing else about it. -/
theorem Phase.of_queued {n : Nat} {r : Request} {stage : Stage μ} {said unread : List Notice}
    {replies : List HostFrame} {queued : Prop} {position : Nat}
    (phase : Phase P worlds n r stage said unread replies queued position) (waits : queued)
    (idle : ¬ stage.Busy n) : said = [] ∧ unread = [] ∧ replies = [] ∧ position = 0 := by
  cases phase with
  | waits => exact ⟨rfl, rfl, rfl, rfl⟩
  | asks busy => exact absurd busy idle
  | replied busy => exact absurd busy idle
  | ended begun => exact absurd waits begun
  | lost begun => exact absurd waits begun

/-- After a turn of its own a request asks, has ended, or is lost. -/
theorem Phase.of_turn {n : Nat} {r : Request} {stage : Stage μ} {asked notices : List Notice}
    {queued : Prop} (begun : ¬ queued) {world : μ} (begins : worlds world)
    (conducted : conduct P world n r.source (pulls r.stdin asked.length) = (stage, asked ++ notices))
    (asks : ∀ m ∈ asked, m.Asks) (turn : Turn (.ofNat n) stage notices) :
    Phase P worlds n r stage (asked ++ notices) notices [] queued (min asked.length r.stdin.length) := by
  cases turn with
  | asks own prompt => exact .asks own ⟨asks, world, begins, conducted⟩
  | ends world' last own => exact .ended begun id ⟨asks, world, begins, conducted⟩ last
  | gone code =>
    rw [List.append_nil]
    exact .lost begun
  | lost =>
    rw [List.append_nil]
    exact .lost begun

/-- The reply to a request leads to its next turn. -/
theorem Phase.of_reply {n : Nat} {r : Request} {e : Errand} {q : Question} {gathered : Points}
    {resume : Answer → Play (Fate × μ)} {said unread : List Notice} {value : Option String}
    {replies : List HostFrame} {queued : Prop} {position : Nat} (begun : ¬ queued)
    (phase : Phase P worlds n r (.asking e q gathered resume) said unread
      (.inputReply n value :: replies) queued position) (own : e.id = .ofNat n) :
    Phase P worlds n r (Worker.answer e q gathered resume (valueOf value)).1
      (said ++ (Worker.answer e q gathered resume (valueOf value)).2)
      (unread ++ (Worker.answer e q gathered resume (valueOf value)).2) replies queued position := by
  cases phase with
  | @replied asked prompt _ busy conducted =>
    obtain ⟨asks, world, begins, conducted⟩ := conducted
    have turn := answer_turn e q gathered resume (valueOf (pull r.stdin asked.length))
    rw [own] at turn
    have count : (asked ++ [Notice.input (.ofNat n) prompt]).length = asked.length + 1 := by
      rw [List.length_append, List.length_singleton]
    rw [← count]
    refine .of_turn begun begins ?_ ?_ turn
    · rw [count, pulls_succ, conduct_snoc, conducted]
      rfl
    · intro m mem
      rcases List.mem_append.mp mem with before | last
      · exact asks m before
      · rw [List.mem_singleton.mp last]
        trivial

end Snippet.Guest
