import Mathlib.Tactic.Common
import Snippet.Proofs.Wire.Recorded

/-!
# How a served request ends

A request that is served by sessions is told that no session could be started, goes down with one that
was being started, or has its source run. `Provider.Honest` says of sessions that they take input lines
from the cursor of the request and report errors of the source with a trace that is left out when it is
blank. Sessions on processes are honest, whatever the process sends (`Pool.provider_honest`).
-/

namespace Snippet

namespace Interpreter

variable {σ : Type}

/-- Sessions that read input lines one by one from the cursor of the request, and whose errors are
built from a message and a trace. -/
structure Provider.Honest (P : Provider σ) : Prop where
  reads : ∀ {world session request x consumed},
    (P.execute world session request).1 = some (x, consumed) →
      ∃ count, consumed = (LineCursor.asked request.stdin count).position
  errors : ∀ {world session request output error consumed},
    (P.execute world session request).1 = some (.answered output (some error), consumed) →
      ∃ message trace, error = (ErrorDetail.ofMessage message).withTrace trace

/-- The endings that a request can be told of. -/
inductive Told (P : Provider σ) (request : Request) : Ending → Prop where
  | refused (failure : BootFailure) : Told P request (.failed failure.backendFailure)
  | crashed (panic : Panic) : Told P request (.panicked panic)
  | ran {world : σ} {session : Nat} {x : Executed} {consumed : Nat}
      (executed : (P.execute world session request).1 = some (x, consumed)) :
      Told P request (x.ending consumed)

namespace Runner

variable {P : Provider σ} {r : Runner} {world : σ} {request : Request} {ending : Ending}

theorem execute_told {caller session : Nat}
    (ended : (r.execute P world caller session request).1 = some ending) : Told P request ending := by
  unfold execute at ended
  split at ended
  next x consumed world' executed =>
    cases ended
    exact .ran (congrArg Prod.fst executed)
  next world' left => cases ended

theorem serve_told (ended : (r.serve P world request).1 = some ending) : Told P request ending := by
  unfold serve at ended
  dsimp only at ended
  split at ended
  · exact execute_told ended
  · split at ended
    · exact execute_told ended
    · cases ended
      exact .refused _
    · cases ended
      exact .crashed _
    · cases ended
  · cases ended

end Runner

end Interpreter

/-! ## Sessions on processes -/

namespace Wire

open Interpreter

variable {σ : Type}

namespace Exchange

theorem react_reply {e next : Exchange} {frame : DriverFrame} {reply : HostFrame}
    (reacts : e.react frame = .reply reply next) :
    next = e ∨ next = { e with cursor := e.cursor.next.2 } := by
  cases asks : frame.asks? with
  | some k =>
    rw [react_of_question asks] at reacts
    split at reacts
    · cases reacts
      exact .inr rfl
    · cases reacts
      exact .inl rfl
  | none =>
    cases answers : frame.answer? e.id with
    | some answer =>
      rw [react_of_answer answers] at reacts
      cases reacts
    | none =>
      rw [react_of_neither asks answers] at reacts
      cases reacts

theorem react_error {e : Exchange} {frame : DriverFrame} {output : String} {error : ErrorDetail}
    (reacts : e.react frame = .answer output (some error)) :
    ∃ message trace, error = (ErrorDetail.ofMessage message).withTrace trace := by
  cases frame with
  | error id said message trace =>
    rw [react] at reacts
    split at reacts
    · cases reacts
      exact ⟨message, some trace, rfl⟩
    · cases reacts
  | done id said =>
    rw [react] at reacts
    split at reacts <;> cases reacts
  | input id prompt =>
    rw [react_of_question rfl] at reacts
    split at reacts <;> cases reacts
  | ready version => cases reacts

/-- However a conversation goes, its cursor has been asked for lines one by one, and an error of the
source is built from a message and a trace. -/
theorem converse_honest (P : Peer σ) (bound id : Nat) (input : List String) (n count : Nat) (s : σ) :
    (∃ count', (converse P bound n ⟨id, .asked input count⟩ s).2.1.cursor = .asked input count') ∧
      ∀ {output error}, (converse P bound n ⟨id, .asked input count⟩ s).1 =
          some (.answered output (some error)) →
        ∃ message trace, error = (ErrorDetail.ofMessage message).withTrace trace := by
  induction n generalizing count s with
  | zero => exact ⟨⟨count, rfl⟩, by rintro _ _ ⟨⟩⟩
  | succ n ih =>
    rw [converse]
    split
    · exact ⟨⟨count, rfl⟩, by rintro _ _ ⟨⟩⟩
    · exact ⟨⟨count, rfl⟩, by rintro _ _ ⟨⟩⟩
    · exact ⟨⟨count, rfl⟩, by rintro _ _ ⟨⟩⟩
    · split
      next reacts => exact ih count _
      next answers =>
        refine ⟨⟨count, rfl⟩, ?_⟩
        intro output error same
        cases same
        exact react_error answers
      next reply next reacts =>
        have asks : ∃ count', next = ⟨id, .asked input count'⟩ := by
          rcases react_reply reacts with rfl | rfl
          · exact ⟨count, rfl⟩
          · exact ⟨count + 1, by rw [LineCursor.next_asked]⟩
        obtain ⟨count', rfl⟩ := asks
        split
        · exact ih count' _
        · exact ⟨⟨count', rfl⟩, by rintro _ _ ⟨⟩⟩

theorem execute_honest (P : Peer σ) (bound id : Nat) (request : Request) (s : σ) :
    (∃ count, (execute P bound id request s).2.1.cursor = .asked request.stdin count) ∧
      ∀ {output error}, (execute P bound id request s).1 = some (.answered output (some error)) →
        ∃ message trace, error = (ErrorDetail.ofMessage message).withTrace trace := by
  have start : request.cursor = .asked request.stdin 0 := LineCursor.ofLines_eq_asked _
  unfold execute
  rw [start]
  dsimp only
  split
  · exact converse_honest P bound id request.stdin bound 0 _
  · exact ⟨⟨0, rfl⟩, nofun⟩

end Exchange

theorem Pool.execute_eq {L : Launcher σ} {P : Peer σ} {pool : Pool σ} {session : Nat}
    {request : Request} {x : Executed} {consumed : Nat}
    (executed : (Pool.execute L P pool session request).1 = some (x, consumed)) :
    ∃ id s, (Exchange.execute P L.bound id request s).1 = some x ∧
      (Exchange.execute P L.bound id request s).2.1.cursor.position = consumed := by
  unfold Pool.execute at executed
  split at executed
  next unknown => cases executed
  next i found =>
    split at executed
    next missing => cases executed
    next session' line present =>
      obtain ⟨x', ran, same⟩ := Option.map_eq_some_iff.mp executed
      cases same
      exact ⟨line.nextId, line.process, ran, rfl⟩

theorem Pool.provider_honest (L : Launcher σ) (P : Peer σ) : (Pool.provider L P).Honest where
  reads executed := by
    obtain ⟨id, s, -, position⟩ := Pool.execute_eq executed
    obtain ⟨⟨count, cursor⟩, -⟩ := Exchange.execute_honest P L.bound id _ s
    exact ⟨count, by rw [← position, cursor]⟩
  errors executed := by
    obtain ⟨id, s, ran, -⟩ := Pool.execute_eq executed
    exact (Exchange.execute_honest P L.bound id _ s).2 ran

end Wire

end Snippet
