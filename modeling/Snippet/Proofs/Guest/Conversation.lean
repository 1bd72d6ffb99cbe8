import Snippet.Proofs.Guest.Isolation

/-!
# Conversations on a pipe

`Exchange.execute` takes a request through a conversation without a break: what the host sends is
heard at once. `Link.execute_run`: such a conversation is a run of a `Link`, so what is known of all
runs holds for it, whatever requests have been given up on the process before.
-/

namespace Snippet.Guest

open Snippet.Text Snippet.Wire Snippet.Interpreter

variable {μ : Type} {P : Programs μ}

/-- A reply does not change whose conversation it is. -/
theorem react_reply_id {e next : Exchange} {frame : DriverFrame} {reply : HostFrame}
    (reaction : e.react frame = .reply reply next) : next.id = e.id := by
  cases frame with
  | input id prompt =>
    rw [Exchange.react] at reaction
    split at reaction
    · cases reaction
      rfl
    · cases reaction
      rfl
  | done id output =>
    rw [Exchange.react] at reaction
    split at reaction
    · cases reaction
    · cases reaction
  | error id output message trace =>
    rw [Exchange.react] at reaction
    split at reaction
    · cases reaction
    · cases reaction
  | ready version => cases reaction

namespace Link

/-- The link and the process are at the same point: the worker has heard all and written all, and what
it has said that has not been read is the same. -/
structure Carries (l : Link μ) (s : Process μ) : Prop where
  heard : l.toWorker = []
  written : l.unwritten = 0
  worker : s.worker = l.worker
  unread : s.unread = l.toHost.map Notice.line

/-- What a conversation leaves as it is. -/
structure Along (l l' : Link μ) : Prop where
  nextId : l'.nextId = l.nextId
  asked : l'.asked = l.asked

theorem Along.trans {l l' l'' : Link μ} (one : l.Along l') (other : l'.Along l'') : l.Along l'' :=
  ⟨other.nextId.trans one.nextId, other.asked.trans one.asked⟩

/-- The host reads lines up to the next frame, and reacts to it. -/
theorem frame_run {bound : Nat} {l : Link μ} {s s' : Process μ} {e : Exchange} {frame : DriverFrame}
    (carries : l.Carries s) (holds : l.current = some e)
    (next : (Process.peer P).frame bound s = (.inl frame, s')) :
    ∃ events l', l.run P events = l'.react e true frame ∧ l'.current = some e ∧
      l'.answered = l.answered ∧ l.Along l' ∧ l'.Carries s' := by
  induction bound generalizing l s with
  | zero => cases next
  | succ bound ih =>
    rw [Peer.frame] at next
    have receives : (Process.peer P).receive s = s.receive := rfl
    rw [receives, Process.receive, carries.unread] at next
    cases toHost : l.toHost with
    | nil =>
      rw [toHost, List.map_nil] at next
      cases stage : s.worker.stage with
      | idle =>
        rw [stage] at next
        cases next
      | asking =>
        rw [stage] at next
        cases next
      | gone =>
        rw [stage] at next
        cases next
      | lost =>
        rw [stage] at next
        cases next
    | cons notice rest =>
      rw [toHost, List.map_cons] at next
      dsimp only at next
      have written : l.unwritten ≤ rest.length := by
        rw [carries.written]
        exact Nat.zero_le _
      have step := step_read (P := P) holds toHost written true
      have carries' : Carries { l with toHost := rest } { s with unread := rest.map Notice.line } :=
        ⟨carries.heard, carries.written, carries.worker, rfl⟩
      cases read : DriverFrame.ofLine? notice.line with
      | some found =>
        rw [read] at next
        cases next
        rw [receive, read] at step
        exact ⟨[.read true], _, step, holds, rfl, ⟨rfl, rfl⟩, carries'⟩
      | none =>
        rw [read] at next
        rw [receive, read] at step
        obtain ⟨events, l', reaches, holds', answered, along, later⟩ := ih carries' holds next
        refine ⟨.read true :: events, l', ?_, holds', answered, ⟨along.nextId, along.asked⟩, later⟩
        rw [run_cons, step]
        exact reaches

/-- What is sent is heard at once, and what is said about it is written at once. -/
theorem hear_run {l : Link μ} {s s' : Process μ} {frame : HostFrame} (carries : l.Carries s)
    (sent : (Process.peer P).send s frame = (none, s')) :
    ∃ events l', run P { l with toWorker := l.toWorker ++ [frame] } events = l' ∧ l'.Carries s' ∧
      l'.current = l.current ∧ l'.answered = l.answered ∧ l.Along l' := by
  have sends : (Process.peer P).send s frame = Process.send P s frame := rfl
  have said : s' = ⟨(s.worker.hearLine P frame.line).1,
      s.unread ++ (s.worker.hearLine P frame.line).2.map Notice.line⟩ := by
    rw [sends, Process.send] at sent
    split at sent
    · cases sent
    · exact (congrArg Prod.snd sent).symm
  have next : l.toWorker ++ [frame] = [frame] := by rw [carries.heard, List.nil_append]
  have hears : step P { l with toWorker := l.toWorker ++ [frame] } .hear =
      { l with toWorker := [] }.speak (l.worker.hearLine P frame.line) :=
    step_hear next carries.written
  generalize spoken_eq : ({ l with toWorker := [] } : Link μ).speak
    (l.worker.hearLine P frame.line) = spoken at hears
  refine ⟨.hear :: List.replicate spoken.unwritten .write, { spoken with unwritten := 0 }, ?_, ?_⟩
  · rw [run_cons, hears, run_write]
  · rw [said, carries.unread, carries.worker, ← spoken_eq]
    exact ⟨⟨rfl, rfl, rfl, List.map_append.symm⟩, rfl, rfl, rfl, rfl⟩

/-- A conversation that comes to an answer is a run that answers the request. -/
theorem converse_run {lines bound : Nat} {l : Link μ} {s s' : Process μ} {e e' : Exchange}
    {output : String} {error : Option ErrorDetail} (carries : l.Carries s)
    (holds : l.current = some e)
    (ended : e.converse (Process.peer P) lines bound s = (some (.answered output error), e', s')) :
    ∃ events, (l.run P events).answered = l.answered ++ [(e.id, output, error)] ∧
      (l.run P events).current = none ∧ l.Along (l.run P events) ∧ (l.run P events).Carries s' := by
  induction bound generalizing l s e with
  | zero => cases ended
  | succ bound ih =>
    rw [Exchange.converse] at ended
    split at ended
    next => cases ended
    next => cases ended
    next => cases ended
    next frame t next =>
      obtain ⟨reads, l', reaches, holds', answered, along, later⟩ := frame_run carries holds next
      split at ended
      next reaction =>
        rw [react_ignore reaction true] at reaches
        obtain ⟨events, done, free, along', last⟩ := ih later holds' ended
        refine ⟨reads ++ events, ?_⟩
        rw [run_append, reaches, done, answered]
        exact ⟨rfl, free, along.trans along', last⟩
      next output' error' reaction =>
        cases ended
        rw [react_answer reaction true] at reaches
        refine ⟨reads, ?_⟩
        rw [reaches, answered]
        exact ⟨rfl, rfl, ⟨along.nextId, along.asked⟩, later.heard, later.written, later.worker,
          later.unread⟩
      next reply e'' reaction =>
        split at ended
        next t' sent =>
          rw [react_reply reaction true, if_pos rfl] at reaches
          obtain ⟨hears, l'', heard, later', same, kept, still⟩ :=
            hear_run (P := P) (l := { l' with current := some e'' })
              ⟨later.heard, later.written, later.worker, later.unread⟩ sent
          obtain ⟨events, done, free, along', last⟩ := ih later' same ended
          have along'' : l'.Along l'' := ⟨still.nextId, still.asked⟩
          refine ⟨reads ++ (hears ++ events), ?_⟩
          rw [run_append, reaches, run_append, heard]
          refine ⟨?_, free, along.trans (along''.trans along'), last⟩
          rw [done, kept, react_reply_id reaction]
          exact congrArg (· ++ [(e.id, output, error)]) answered
        next => cases ended

/-- A request on a process whose link is free is answered as in a run of the link. -/
theorem execute_run {bound : Nat} {l : Link μ} {s s' : Process μ} {e : Exchange} {request : Request}
    {output : String} {error : Option ErrorDetail} (carries : l.Carries s) (free : l.current = none)
    (ended : Exchange.execute (Process.peer P) bound l.nextId request s =
      (some (.answered output error), e, s')) :
    ∃ events, (l.run P events).answered = l.answered ++ [(l.nextId, output, error)] ∧
      (l.run P events).asked = l.asked ++ [(l.nextId, request)] ∧
      (l.run P events).nextId = l.nextId + 1 ∧ (l.run P events).current = none ∧
      (l.run P events).Carries s' := by
  rw [Exchange.execute] at ended
  split at ended
  next t sent =>
    have asks : l.step P (.ask request true) = l.ask request true := by
      rw [step, free]
      rfl
    obtain ⟨hears, l', heard, carries', same, kept, still⟩ :=
      hear_run (P := P) (l := { l.ask request true with toWorker := l.toWorker })
        ⟨carries.heard, carries.written, carries.worker, carries.unread⟩ sent
    obtain ⟨events, done, free', along, last⟩ := converse_run carries' same ended
    refine ⟨.ask request true :: (hears ++ events), ?_⟩
    rw [run_cons, asks, run_append]
    have reaches : (l.ask request true).run P hears = l' := heard
    rw [reaches]
    refine ⟨?_, along.asked.trans still.asked, along.nextId.trans still.nextId, free', last⟩
    exact done.trans (congrArg (· ++ [(l.nextId, output, error)]) kept)
  next => cases ended

end Link

end Snippet.Guest
