import Mathlib.Tactic.Common
import Snippet.Proofs.Request.Cursor
import Snippet.Wire.Exchange

/-!
# Conversations with a recording

Whatever a process says, a host meets it as a sequence of lines. A `Recording` is a process whose
lines are settled beforehand, noise included, and that takes all that it is told.
`Exchange.execute_recording` is the host's whole side of the protocol: what it sends, what it returns,
how far its cursor goes and where it stops reading. `Exchange.execute_replay`: a conversation with any
process at all, as long as the pipe holds, is one with a recording of what the process said.
-/

namespace Snippet.Wire

open Snippet.Text Snippet.Interpreter

/-- A process whose lines are settled beforehand, and that takes all that it is told. -/
structure Recording where
  /-- the lines that are still to come; after them there will be no more -/
  unread : List String
  /-- what the process has been told -/
  told : List HostFrame
  deriving Repr, DecidableEq

namespace Recording

/-- The recording takes a frame. -/
def send (s : Recording) (frame : HostFrame) : Option String × Recording :=
  (none, { s with told := s.told ++ [frame] })

/-- The next line of the recording. -/
def receive (s : Recording) : Arrival × Recording :=
  match s.unread with
  | line :: rest => (.line line, { s with unread := rest })
  | [] => (.ended, s)

/-- A recording at the other end of the pipe. -/
def peer : Peer Recording := ⟨send, receive⟩

end Recording

/-! ## What lines say to a request -/

/-- The request whose source asks for input in a frame. -/
def DriverFrame.asks? : DriverFrame → Option Nat
  | .input id _ => some id
  | _ => none

/-- The end of the request of that number that a frame tells of. A blank trace is none. -/
def DriverFrame.answer? (id : Nat) : DriverFrame → Option (String × Option ErrorDetail)
  | .done k output => if k = id then some (output, none) else none
  | .error k output message trace =>
    if k = id then
      some (output, some ⟨message, if isBlankText trace then none else some trace, none⟩)
    else none
  | _ => none

/-- The end of the request of that number that a line tells of. -/
def answer? (id : Nat) (line : String) : Option (String × Option ErrorDetail) :=
  (DriverFrame.ofLine? line).bind (DriverFrame.answer? id)

/-- The lines before the first one that tells of the end of the request. -/
def before (id : Nat) (lines : List String) : List String :=
  lines.takeWhile fun line => (answer? id line).isNone

/-- The lines behind the first one that tells of the end of the request. -/
def behind (id : Nat) (lines : List String) : List String :=
  (lines.dropWhile fun line => (answer? id line).isNone).tail

/-- The end of the request that the first line which tells of one tells of; without one the process
has ended before its answer. -/
def outcome (id : Nat) (lines : List String) : Executed :=
  match lines.findSome? (answer? id) with
  | some (output, error) => .answered output error
  | none => .failed .exited

/-- The questions for input in lines, each by the number of the request whose source asks. -/
def questions (lines : List String) : List Nat :=
  lines.filterMap fun line => (DriverFrame.ofLine? line).bind DriverFrame.asks?

/-- One reply to each question: the next line of input if the request itself asks, no value where
there is none left or another request asks. -/
def replies (id : Nat) (input : List String) (asked : List Nat) : List HostFrame :=
  asked.mapIdx fun i k => .inputReply k (if k = id then input[(asked.take i).count id]? else none)

section Lines

variable {id k : Nat} {line : String} {rest : List String} {frame : DriverFrame}

theorem replies_own (input : List String) (asked : List Nat) :
    replies id input (id :: asked) =
      .inputReply id input[0]? :: replies id (input.drop 1) asked := by
  unfold replies
  rw [List.mapIdx_cons]
  simp

theorem replies_other (other : k ≠ id) (input : List String) (asked : List Nat) :
    replies id input (k :: asked) = .inputReply k none :: replies id input asked := by
  unfold replies
  rw [List.mapIdx_cons]
  simp [other]

theorem answer?_of_frame (found : DriverFrame.ofLine? line = some frame) :
    answer? id line = frame.answer? id := by
  rw [answer?, found, Option.bind_some]

theorem answer?_of_noise (noise : DriverFrame.ofLine? line = none) : answer? id line = none := by
  rw [answer?, noise, Option.bind_none]

theorem questions_of_frame (found : DriverFrame.ofLine? line = some frame) :
    questions (line :: rest) = frame.asks?.toList ++ questions rest := by
  unfold questions
  rw [List.filterMap_cons, found, Option.bind_some]
  cases frame.asks? <;> rfl

theorem questions_of_noise (noise : DriverFrame.ofLine? line = none) :
    questions (line :: rest) = questions rest := by
  unfold questions
  rw [List.filterMap_cons, noise, Option.bind_none]

theorem before_cons (open_ : answer? id line = none) :
    before id (line :: rest) = line :: before id rest := by
  simp [before, open_]

theorem behind_cons (open_ : answer? id line = none) :
    behind id (line :: rest) = behind id rest := by
  simp [behind, open_]

theorem outcome_cons (open_ : answer? id line = none) :
    outcome id (line :: rest) = outcome id rest := by
  simp [outcome, open_]

end Lines

/-! ## What a request makes of a frame -/

namespace Exchange

variable {e : Exchange} {frame : DriverFrame}

theorem react_of_answer {output : String} {error : Option ErrorDetail}
    (answers : frame.answer? e.id = some (output, error)) :
    e.react frame = .answer output error := by
  unfold DriverFrame.answer? at answers
  cases frame with
  | ready version => cases answers
  | input k prompt => cases answers
  | done k said =>
    obtain ⟨own, eq⟩ := Option.ite_none_right_eq_some.mp answers
    cases eq
    exact if_pos own
  | error k said message trace =>
    obtain ⟨own, eq⟩ := Option.ite_none_right_eq_some.mp answers
    cases eq
    have kept : (ErrorDetail.ofMessage message).withTrace (some trace) =
        ⟨message, if isBlankText trace then none else some trace, none⟩ := by
      unfold ErrorDetail.withTrace
      rw [Option.filter_some]
      by_cases blank : isBlankText trace
      · simp [blank, ErrorDetail.ofMessage]
      · simp [blank, ErrorDetail.ofMessage]
    rw [← kept]
    exact if_pos own

theorem react_of_question {k : Nat} (asks : frame.asks? = some k) :
    e.react frame =
      if k = e.id then .reply (.inputReply k e.cursor.next.1) { e with cursor := e.cursor.next.2 }
      else .reply (.inputReply k none) e := by
  cases frame with
  | input j prompt =>
    cases asks
    rfl
  | ready version => cases asks
  | done j said => cases asks
  | error j said message trace => cases asks

theorem react_of_neither (asks : frame.asks? = none) (answers : frame.answer? e.id = none) :
    e.react frame = .ignore := by
  unfold DriverFrame.answer? at answers
  cases frame with
  | ready version => rfl
  | input k prompt => cases asks
  | done k said =>
    have other : k ≠ e.id := fun own => by simp [own] at answers
    exact if_neg other
  | error k said message trace =>
    have other : k ≠ e.id := fun own => by simp [own] at answers
    exact if_neg other

end Exchange

/-! ## Reading a recording -/

namespace Recording

variable {line : String} {lines rest : List String} {told : List HostFrame} {frame : DriverFrame}

theorem frame_nil (bound : Nat) :
    peer.frame (bound + 1) ⟨[], told⟩ = (.inr .ended, ⟨[], told⟩) := rfl

theorem frame_noise (noise : DriverFrame.ofLine? line = none) (bound : Nat) :
    peer.frame (bound + 1) ⟨line :: rest, told⟩ = peer.frame bound ⟨rest, told⟩ := by
  have comes : peer.receive ⟨line :: rest, told⟩ = (.line line, ⟨rest, told⟩) := rfl
  rw [Peer.frame, comes]
  dsimp only
  rw [noise]

theorem frame_found (found : DriverFrame.ofLine? line = some frame) (bound : Nat) :
    peer.frame (bound + 1) ⟨line :: rest, told⟩ = (.inl frame, ⟨rest, told⟩) := by
  have comes : peer.receive ⟨line :: rest, told⟩ = (.line line, ⟨rest, told⟩) := rfl
  rw [Peer.frame, comes]
  dsimp only
  rw [found]

/-- How many lines may be read does not matter as long as all of them may. -/
theorem frame_steady {bound bound' : Nat} (room : lines.length < bound)
    (room' : lines.length < bound') :
    peer.frame bound ⟨lines, told⟩ = peer.frame bound' ⟨lines, told⟩ := by
  induction lines generalizing bound bound' with
  | nil =>
    obtain ⟨n, rfl⟩ := Nat.exists_eq_succ_of_ne_zero (Nat.ne_of_gt room)
    obtain ⟨n', rfl⟩ := Nat.exists_eq_succ_of_ne_zero (Nat.ne_of_gt room')
    rfl
  | cons line rest ih =>
    rw [List.length_cons] at room room'
    obtain ⟨n, rfl⟩ := Nat.exists_eq_succ_of_ne_zero (Nat.ne_zero_of_lt room)
    obtain ⟨n', rfl⟩ := Nat.exists_eq_succ_of_ne_zero (Nat.ne_zero_of_lt room')
    cases read : DriverFrame.ofLine? line with
    | none =>
      rw [frame_noise read, frame_noise read]
      exact ih (by omega) (by omega)
    | some frame => rw [frame_found read, frame_found read]

end Recording

namespace Exchange

variable {id : Nat} {line : String} {lines rest : List String} {told : List HostFrame}
  {frame : DriverFrame} {bound steps : Nat} {e : Exchange}

/-- A line that is no frame makes no difference. -/
theorem converse_noise (noise : DriverFrame.ofLine? line = none) (room : rest.length + 1 < bound) :
    e.converse Recording.peer bound (steps + 1) ⟨line :: rest, told⟩ =
      e.converse Recording.peer bound (steps + 1) ⟨rest, told⟩ := by
  obtain ⟨n, rfl⟩ := Nat.exists_eq_succ_of_ne_zero (Nat.ne_zero_of_lt room)
  have skipped : Recording.peer.frame (n + 1) ⟨line :: rest, told⟩ =
      Recording.peer.frame (n + 1) ⟨rest, told⟩ := by
    rw [Recording.frame_noise noise]
    exact Recording.frame_steady (by omega) (by omega)
  rw [converse, converse, skipped]

/-- One step of a conversation with a recording. -/
theorem converse_found (found : DriverFrame.ofLine? line = some frame) :
    e.converse Recording.peer (bound + 1) (steps + 1) ⟨line :: rest, told⟩ =
      match e.react frame with
      | .ignore => e.converse Recording.peer (bound + 1) steps ⟨rest, told⟩
      | .answer output error => (some (.answered output error), e, ⟨rest, told⟩)
      | .reply reply e =>
        e.converse Recording.peer (bound + 1) steps ⟨rest, told ++ [reply]⟩ := by
  rw [converse, Recording.frame_found found]
  dsimp only
  cases e.react frame <;> rfl

/-- The rest of a conversation with a recording, from a point where the request has asked for so many
lines of its input. -/
theorem converse_recording (input : List String) (count : Nat) (room : lines.length < bound)
    (more : lines.length < steps) :
    Exchange.converse Recording.peer bound steps ⟨id, .asked input count⟩ ⟨lines, told⟩ =
      (some (outcome id lines),
        ⟨id, .asked input (count + (questions (before id lines)).count id)⟩,
        ⟨behind id lines,
          told ++ replies id (input.drop count) (questions (before id lines))⟩) := by
  -- the reading bound stays as it is: only the number of steps goes down with the lines
  induction lines generalizing count told steps with
  | nil =>
    obtain ⟨n, rfl⟩ := Nat.exists_eq_succ_of_ne_zero (Nat.ne_of_gt room)
    obtain ⟨n', rfl⟩ := Nat.exists_eq_succ_of_ne_zero (Nat.ne_of_gt more)
    rw [converse, Recording.frame_nil]
    simp [outcome, questions, before, behind, replies]
  | cons line rest ih =>
    rw [List.length_cons] at room more
    obtain ⟨n, rfl⟩ := Nat.exists_eq_succ_of_ne_zero (Nat.ne_zero_of_lt room)
    obtain ⟨n', rfl⟩ := Nat.exists_eq_succ_of_ne_zero (Nat.ne_zero_of_lt more)
    cases read : DriverFrame.ofLine? line with
    | none =>
      have silent : answer? id line = none := answer?_of_noise read
      rw [converse_noise read room, ih count (by omega) (by omega), outcome_cons silent,
        behind_cons silent, before_cons silent, questions_of_noise read]
    | some frame =>
      have reads : answer? id line = frame.answer? id := answer?_of_frame read
      rw [converse_found read]
      cases answers : frame.answer? id with
      | some answer =>
        obtain ⟨output, error⟩ := answer
        rw [answers] at reads
        rw [react_of_answer (e := ⟨id, _⟩) answers]
        simp [outcome, questions, before, behind, replies, reads]
      | none =>
        rw [answers] at reads
        rw [outcome_cons reads, behind_cons reads, before_cons reads, questions_of_frame read]
        cases asks : frame.asks? with
        | none =>
          rw [react_of_neither (e := ⟨id, _⟩) asks answers]
          exact ih count (by omega) (by omega)
        | some k =>
          rw [react_of_question asks]
          dsimp only
          by_cases own : k = id
          · subst own
            rw [if_pos rfl, LineCursor.next_asked]
            dsimp only
            rw [ih (count + 1) (by omega) (by omega)]
            simp [replies_own, Nat.add_assoc, Nat.add_comm]
          · rw [if_neg own]
            dsimp only
            rw [ih count (by omega) (by omega)]
            simp [replies_other own, own]

/-- The host's side of a conversation. It asks for the source to be run, and answers each question up
to the first line that tells of the end of the request; it returns what that line says, and reads no
line behind it. -/
theorem execute_recording (id : Nat) (request : Request) (lines : List String) (spare : Nat) :
    let asked := questions (before id lines)
    Exchange.execute Recording.peer (lines.length + 1 + spare) id request ⟨lines, []⟩ =
      (some (outcome id lines),
        ⟨id, ⟨request.stdin, min (asked.count id) request.stdin.length⟩⟩,
        ⟨behind id lines, .exec id request.source :: replies id request.stdin asked⟩) := by
  intro asked
  have cursor : request.cursor = .asked request.stdin 0 := LineCursor.ofLines_eq_asked _
  have sent : Recording.peer.send ⟨lines, []⟩ (.exec id request.source) =
      (none, ⟨lines, [.exec id request.source]⟩) := rfl
  rw [execute, cursor, sent]
  dsimp only
  rw [converse_recording request.stdin 0 (by omega) (by omega), Nat.zero_add]
  rfl

/-- A question left over from another request, noise, an old answer, and what comes after the end. -/
example :
    let lines := ["\x7b\"type\":\"input\",\"id\":4,\"prompt\":\"\"\x7d", "", "Traceback",
      "\x7b\"type\":\"done\",\"id\":4,\"output\":\"old\"\x7d",
      "\x7b\"type\":\"input\",\"id\":5,\"prompt\":\"? \"\x7d",
      "\x7b\"type\":\"done\",\"id\":5,\"output\":\"hi\"\x7d", "left over"]
    Exchange.execute Recording.peer 8 5 ⟨"input('? ')", .python, ["Ada", "Bob"]⟩ ⟨lines, []⟩ =
      (some (.answered "hi" none), ⟨5, ⟨["Ada", "Bob"], 1⟩⟩,
        ⟨["left over"], [.exec 5 "input('? ')", .inputReply 4 none, .inputReply 5 (some "Ada")]⟩) := by
  decide +kernel

/-! ## Any other process -/

section Replay

variable {σ : Type} {P : Peer σ} {s s' : σ} {e' : Exchange} {x : Executed}

/-- The lines that a process said before its next frame. -/
theorem frame_replay (next : P.frame bound s = (.inl frame, s')) :
    ∃ said, ∀ bound', bound ≤ bound' → ∀ rest told,
      Recording.peer.frame bound' ⟨said ++ rest, told⟩ = (.inl frame, ⟨rest, told⟩) := by
  induction bound generalizing s with
  | zero => cases next
  | succ n ih =>
    rw [Peer.frame] at next
    split at next
    next line t comes =>
      split at next
      next found read =>
        cases next
        refine ⟨[line], fun bound' more rest told => ?_⟩
        obtain ⟨m, rfl⟩ := Nat.exists_eq_succ_of_ne_zero (Nat.ne_zero_of_lt more)
        exact Recording.frame_found read m
      next noise =>
        obtain ⟨said, plays⟩ := ih next
        refine ⟨line :: said, fun bound' more rest told => ?_⟩
        obtain ⟨m, rfl⟩ := Nat.exists_eq_succ_of_ne_zero (Nat.ne_zero_of_lt more)
        rw [List.cons_append, Recording.frame_noise noise]
        exact plays m (by omega) rest told
    next => cases next

/-- The lines that a process said before it ended. -/
theorem ended_replay (next : P.frame bound s = (.inr .ended, s')) :
    ∃ said, ∀ bound', bound ≤ bound' → ∀ told,
      Recording.peer.frame bound' ⟨said, told⟩ = (.inr .ended, ⟨[], told⟩) := by
  induction bound generalizing s with
  | zero => cases next
  | succ n ih =>
    rw [Peer.frame] at next
    split at next
    next line t comes =>
      split at next
      next => cases next
      next noise =>
        obtain ⟨said, plays⟩ := ih next
        refine ⟨line :: said, fun bound' more told => ?_⟩
        obtain ⟨m, rfl⟩ := Nat.exists_eq_succ_of_ne_zero (Nat.ne_zero_of_lt more)
        rw [Recording.frame_noise noise]
        exact plays m (by omega) told
    next arrival t comes =>
      refine ⟨[], fun bound' more told => ?_⟩
      obtain ⟨m, rfl⟩ := Nat.exists_eq_succ_of_ne_zero (Nat.ne_zero_of_lt more)
      exact Recording.frame_nil m

theorem converse_replay (held : ∀ reason, x ≠ .failed (.io reason))
    (ended : e.converse P bound steps s = (some x, e', s')) :
    ∃ said, ∀ bound' steps', bound ≤ bound' → steps ≤ steps' → ∀ told, ∃ told',
      e.converse Recording.peer bound' steps' ⟨said, told⟩ = (some x, e', ⟨[], told'⟩) := by
  induction steps generalizing e s with
  | zero => cases ended
  | succ n ih =>
    rw [converse] at ended
    split at ended
    next t next =>
      cases ended
      obtain ⟨said, plays⟩ := ended_replay next
      refine ⟨said, fun bound' steps' room more told => ⟨told, ?_⟩⟩
      obtain ⟨m, rfl⟩ := Nat.exists_eq_succ_of_ne_zero (Nat.ne_zero_of_lt more)
      rw [converse, plays bound' room told]
    next reason t next =>
      cases ended
      exact (held reason rfl).elim
    next => cases ended
    next frame t next =>
      obtain ⟨said, plays⟩ := frame_replay next
      split at ended
      next reaction =>
        obtain ⟨later, goes⟩ := ih ended
        refine ⟨said ++ later, fun bound' steps' room more told => ?_⟩
        obtain ⟨m, rfl⟩ := Nat.exists_eq_succ_of_ne_zero (Nat.ne_zero_of_lt more)
        rw [converse, plays bound' room later told]
        dsimp only
        rw [reaction]
        exact goes bound' m room (by omega) told
      next output error reaction =>
        cases ended
        refine ⟨said ++ [], fun bound' steps' room more told => ⟨told, ?_⟩⟩
        obtain ⟨m, rfl⟩ := Nat.exists_eq_succ_of_ne_zero (Nat.ne_zero_of_lt more)
        rw [converse, plays bound' room [] told]
        dsimp only
        rw [reaction]
      next reply next reaction =>
        split at ended
        next t' sent =>
          obtain ⟨later, goes⟩ := ih ended
          refine ⟨said ++ later, fun bound' steps' room more told => ?_⟩
          obtain ⟨m, rfl⟩ := Nat.exists_eq_succ_of_ne_zero (Nat.ne_zero_of_lt more)
          rw [converse, plays bound' room later told]
          dsimp only
          rw [reaction]
          exact goes bound' m room (by omega) (told ++ [reply])
        next reason t' refused =>
          cases ended
          exact (held reason rfl).elim

/-- Whatever a process does with what it is told, the host meets it as the lines that it said: as long
as the pipe holds, the conversation comes to what these lines say, and nothing else was read. -/
theorem execute_replay {request : Request} (held : ∀ reason, x ≠ .failed (.io reason))
    (ended : Exchange.execute P bound id request s = (some x, e', s')) :
    ∃ said, x = outcome id said ∧ behind id said = [] ∧ e' = ⟨id, ⟨request.stdin,
      min ((questions (before id said)).count id) request.stdin.length⟩⟩ := by
  rw [execute] at ended
  split at ended
  next t sent =>
    obtain ⟨said, plays⟩ := converse_replay held ended
    obtain ⟨told, same⟩ := plays (said.length + 1 + bound) (said.length + 1 + bound) (by omega)
      (by omega) [.exec id request.source]
    have recorded := execute_recording id request said bound
    rw [execute] at recorded
    have whole := same.symm.trans recorded
    simp only [Prod.mk.injEq, Option.some.injEq, Recording.mk.injEq] at whole
    obtain ⟨result, cursor, left, _⟩ := whole
    exact ⟨said, result, left.symm, cursor⟩
  next reason t refused =>
    cases ended
    exact (held reason rfl).elim

end Replay

end Exchange

end Snippet.Wire
