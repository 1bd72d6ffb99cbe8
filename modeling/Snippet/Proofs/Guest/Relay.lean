import Snippet.Guest.Process
import Snippet.Proofs.Guest.Link
import Snippet.Proofs.Guest.Reading

/-!
# Lines that are read from afar

What a program on a worker reads it asks of the host, which hands the lines out with a cursor; the worker
echoes them. `Process.execute_eq_read`: the conversation comes to the same as if the program read the lines
directly.
-/

namespace Snippet.Guest

open Snippet.Text Snippet.Wire Snippet.Interpreter

variable {μ : Type}

/-! ## What a worker keeps -/

theorem output_snoc (deeds : List Deed) (d : Deed) (rest : List String) :
    Ledger.output ⟨deeds ++ [d], rest⟩ =
      Ledger.output ⟨deeds, rest⟩ ++ if .cut ∈ deeds then [] else d.text := by
  rw [Ledger.output, Ledger.output]
  dsimp only
  induction deeds with
  | nil => cases d <;> simp [Deed.text]
  | cons first deeds ih =>
    by_cases ended : first = .cut
    · simp [ended]
    · have other : ¬ Deed.cut = first := fun same => ended same.symm
      simp only [List.cons_append, List.takeWhile_cons, ended, ne_eq, not_false_eq_true, decide_true,
        if_true, List.flatMap_cons, ih, List.append_assoc, List.mem_cons, other, false_or]

theorem everything_snoc (deeds : List Deed) (d : Deed) (rest : List String) :
    Ledger.everything ⟨deeds ++ [d], rest⟩ = Ledger.everything ⟨deeds, rest⟩ ++ d.text := by
  simp [Ledger.everything]

namespace Errand

theorem text_put (e : Errand) (p : Points) : (e.put p).text = e.text ++ if e.cut then [] else p := by
  rw [put, text]
  split
  next => rw [text, List.append_nil]
  next => simp [text]

/-- Where the output has not been cut off, all of it counts. -/
theorem whole_put (e : Errand) (p : Points) (kept : e.cut = false → e.since = []) :
    (e.put p).whole = e.whole ++ p := by
  rw [put]
  split
  next => simp [whole, text]
  next opened =>
    have none_ : e.since = [] := kept (by simpa using opened)
    simp [whole, text, none_]

@[simp] theorem put_cut (e : Errand) (p : Points) : (e.put p).cut = e.cut := by
  rw [put]
  split <;> rfl

@[simp] theorem put_exhausted (e : Errand) (p : Points) : (e.put p).exhausted = e.exhausted := by
  rw [put]
  split <;> rfl

theorem put_since (e : Errand) (p : Points) (kept : e.cut = false → e.since = []) :
    (e.put p).cut = false → (e.put p).since = [] := by
  rw [put]
  split
  next cutOff =>
    intro opened
    rw [cutOff] at opened
    cases opened
  next => exact kept

/-- A worker has put out what the ledger says, and knows where there are no more lines. -/
structure Matches (stdin : List String) (id : Nat) (e : Errand) (s : Ledger) : Prop where
  own : e.id = .ofNat id
  text : e.text = s.output
  everything : e.whole = s.everything
  cut : e.cut = true ↔ .cut ∈ s.deeds
  since : e.cut = false → e.since = []
  spent : e.exhausted = true → s.lines = []
  whole : s.pulled ++ s.lines = stdin

namespace Matches

variable {stdin : List String} {id : Nat} {e e' : Errand} {s : Ledger} {line : String}
  {rest : List String}

theorem fresh (id : Nat) (stdin : List String) :
    (Errand.fresh (.ofNat id)).Matches stdin id ⟨[], stdin⟩ :=
  ⟨rfl, rfl, rfl, by simp [Errand.fresh], fun _ => rfl, nofun, rfl⟩

/-- One deed more, and one line less if it takes one. -/
theorem next (h : e.Matches stdin id s) (d : Deed) (lines : s.lines = d.line?.toList ++ rest)
    (own : e'.id = e.id) (text : e'.text = e.text ++ if e.cut then [] else d.text)
    (everything : e'.whole = e.whole ++ d.text) (cut : e'.cut = true ↔ e.cut = true ∨ d = .cut)
    (since : e'.cut = false → e'.since = []) (spent : e'.exhausted = true → rest = []) :
    e'.Matches stdin id ⟨s.deeds ++ [d], rest⟩ where
  own := own.trans h.own
  text := by
    have same : Ledger.output ⟨s.deeds, rest⟩ = s.output := rfl
    rw [text, h.text, output_snoc, same]
    congr 1
    exact if_congr h.cut rfl rfl
  everything := by
    have same : Ledger.everything ⟨s.deeds, rest⟩ = s.everything := rfl
    rw [everything, h.everything, everything_snoc, same]
  since := since
  cut := by
    rw [cut, h.cut, List.mem_append, List.mem_singleton, eq_comm]
  spent := spent
  whole := by
    have pulled : Ledger.pulled ⟨s.deeds ++ [d], rest⟩ = s.pulled ++ d.line?.toList :=
      Ledger.pulled_note (s := s) (d := d)
    rw [pulled, List.append_assoc, ← lines, h.whole]

theorem put (h : e.Matches stdin id s) (p : Points) :
    (e.put p).Matches stdin id (s.note (.wrote p)) :=
  h.next (.wrote p) rfl (e.put_id p) (e.text_put p) (e.whole_put p h.since) (by simp)
    (e.put_since p h.since) (by simpa using h.spent)

theorem cutOff (h : e.Matches stdin id s) :
    { e with cut := true }.Matches stdin id (s.note .cut) :=
  h.next .cut rfl rfl (by simp [Errand.text, Deed.text]) (by simp [Errand.whole, Errand.text, Deed.text])
    (by simp) nofun h.spent

/-- Where there are no more lines the worker may know it. -/
theorem spend (h : e.Matches stdin id s) (none_left : s.lines = []) :
    { e with exhausted := true }.Matches stdin id s :=
  { h with spent := fun _ => none_left }

/-- Where there is a line the worker does not know of an end. -/
theorem not_exhausted (h : e.Matches stdin id s) (left : s.lines = line :: rest) :
    e.exhausted = false := by
  cases known : e.exhausted with
  | false => rfl
  | true =>
    rw [h.spent known] at left
    cases left

theorem echo (h : e.Matches stdin id s) (left : s.lines = line :: rest) :
    (e.echo (pts line)).Matches stdin id ⟨s.deeds ++ [.took [] line true], rest⟩ := by
  refine h.next (.took [] line true) left (e.echo_id _) (e.text_put _) (e.whole_put _ h.since)
    (by simp [Errand.echo]) (e.put_since _ h.since) ?_
  rw [Errand.echo, put_exhausted, h.not_exhausted left]
  exact nofun

theorem silent (h : e.Matches stdin id s) (left : s.lines = line :: rest) (prompt : Points) :
    e.Matches stdin id ⟨s.deeds ++ [.took prompt line false], rest⟩ := by
  refine h.next (.took prompt line false) left rfl (by simp [Deed.text]) (by simp [Deed.text]) (by simp)
    h.since ?_
  rw [h.not_exhausted left]
  exact nofun

/-- The cursor of the host hands out the next line. -/
theorem cursor (h : e.Matches stdin id s) : (LineCursor.mk stdin s.pulled.length).next =
    (s.lines.head?, ⟨stdin, s.pulled.length + (s.lines.take 1).length⟩) := by
  rw [LineCursor.next]
  dsimp only
  rw [← h.whole, List.getElem?_append_right (Nat.le_refl _), Nat.sub_self]
  cases s.lines <;> rfl

/-- What a worker makes of the next line, or of the end of the lines, is the answer to its question. -/
theorem hear (h : e.Matches stdin id s) (q : Question) (single : q ≠ .all) (legible : q.legible) :
    ∃ e' : Errand, e.hear q [] (valueOf s.lines.head?) = (e', .inl (q.reply (q.taken s.lines))) ∧
      e'.Matches stdin id (s.ask q).2 := by
  cases left : s.lines with
  | nil =>
    rw [Ledger.ask_end legible left]
    cases q with
    | all => exact absurd rfl single
    | input p => exact ⟨e, rfl, h⟩
    | line => exact ⟨{ e with exhausted := true }, rfl, h.spend left⟩
    | silent => exact ⟨{ e with exhausted := true }, rfl, h.spend left⟩
  | cons line rest =>
    rw [Ledger.ask_one legible single left]
    have value : valueOf (line :: rest).head? = .str (pts line) := rfl
    rw [value]
    cases q with
    | all => exact absurd rfl single
    | input p =>
      refine ⟨e, ?_, h.silent left p⟩
      simp [Errand.hear, Question.reply, Question.taken]
    | line =>
      refine ⟨e.echo (pts line), ?_, h.echo left⟩
      simp [Errand.hear, Question.reply, Question.taken]
    | silent =>
      refine ⟨e, ?_, h.silent left []⟩
      simp [Errand.hear, Question.reply, Question.taken]

end Matches

end Errand

/-! ## What a host hears -/

namespace Notice

theorem number?_ofNat {id : Nat} (small : id < 0x10000000000000000) : number? (.ofNat id) = some id := by
  have fits : (id : Int) < 0x10000000000000000 := by omega
  simp [number?, Json.ofNat, fits]

/-- Where the number of a request is in range, its last notice can be read if its texts can. -/
theorem answer?_of_unread {n : Notice} {id : Nat} (small : id < 0x10000000000000000)
    (about : n.request? = some (.ofNat id)) (unread : n.frame? = none) : n.answer? = none := by
  cases n with
  | ready => cases about
  | input => rfl
  | done i output =>
    cases about
    cases read : text? output <;> simp_all [frame?, answer?, number?_ofNat]
  | error i output message trace =>
    cases about
    cases first : text? output <;> cases second : text? message <;> cases third : text? trace <;>
      simp_all [frame?, answer?, number?_ofNat]

end Notice

/-- What the host makes of the end of a program. Text that it cannot read it never hears of. -/
def Fate.executed (output : Points) : Fate → Option Executed
  | .finished => do return .answered (← Notice.text? output) none
  | .raised r => do
    return .answered (← Notice.text? output)
      (some ((ErrorDetail.ofMessage (← Notice.text? r.message)).withTrace (← Notice.text? r.report)))
  | .killed _ => some (.failed .exited)
  | .unknown => none

/-- The end of the program is told, and the worker goes on. -/
def Fate.Told : Fate → Prop
  | .finished => True
  | .raised _ => True
  | .killed _ => False
  | .unknown => False

namespace Process

variable {P : Programs μ} {w : Worker μ} {unread : List String}

/-- A process with a worker that has just said something, and has nothing else to do. -/
def after (turn : Stage μ × List Notice) : Process μ := ⟨⟨turn.1, []⟩, turn.2.map Notice.line⟩

/-- A process with a worker that waits for a request, and has said all. -/
def idle (world : μ) : Process μ := after (.idle world, [])

/-- A process with a worker that has not ended takes what it is sent. -/
theorem send_alive (stays : w.stage.exit? = none) (frame : HostFrame) :
    (peer P).send ⟨w, unread⟩ frame = (none, ⟨(w.hearLine P frame.line).1,
      unread ++ (w.hearLine P frame.line).2.map Notice.line⟩) := by
  obtain ⟨stage, pending⟩ := w
  cases stage with
  | gone => cases stays
  | idle => rfl
  | asking => rfl
  | lost => rfl

theorem frame_line {n : Notice} (numbered : n.Numbered) (bound : Nat) :
    (peer P).frame (bound + 1) ⟨w, n.line :: unread⟩ =
      match n.frame? with
      | some frame => (.inl frame, ⟨w, unread⟩)
      | none => (peer P).frame bound ⟨w, unread⟩ := by
  have received : (peer P).receive ⟨w, n.line :: unread⟩ = (.line n.line, ⟨w, unread⟩) := rfl
  have found := Notice.ofLine?_line numbered
  cases read : n.frame? with
  | none =>
    rw [read] at found
    rw [Peer.frame, received]
    dsimp only
    rw [found]
  | some frame =>
    rw [read] at found
    rw [Peer.frame, received]
    dsimp only
    rw [found]

theorem frame_silent (stays : w.stage.exit? = none) (bound : Nat) :
    (peer P).frame bound ⟨w, []⟩ = (.inr .silent, ⟨w, []⟩) := by
  have received : (peer P).receive ⟨w, []⟩ = (.silent, ⟨w, []⟩) := by
    obtain ⟨stage, pending⟩ := w
    cases stage with
    | gone => cases stays
    | idle => rfl
    | asking => rfl
    | lost => rfl
  cases bound with
  | zero => rfl
  | succ bound => rw [Peer.frame, received]

theorem frame_ended {code : Nat} (gone : w.stage = .gone code) (bound : Nat) :
    (peer P).frame (bound + 1) ⟨w, []⟩ = (.inr .ended, ⟨w, []⟩) := by
  have received : (peer P).receive ⟨w, []⟩ = (.ended, ⟨w, []⟩) := by
    obtain ⟨stage, pending⟩ := w
    cases gone
    rfl
  rw [Peer.frame, received]

end Process

/-! ## The conversation -/

theorem Worker.answer_of_hear {e e' : Errand} {q : Question} {gathered : Points} {value : Message}
    {a : Answer} {resume : Answer → Play (Fate × μ)} (heard : e.hear q gathered value = (e', .inl a)) :
    Worker.answer e q gathered resume value = proceed e' (resume a) := by
  rw [Worker.answer, heard]

namespace Process

variable {P : Programs μ} {e : Errand} {id bound : Nat} {cursor : LineCursor} {stage : Stage μ}
  {n : Notice}

/-- A notice that cannot be read is as good as none. -/
theorem converse_unread (numbered : n.Numbered) (unreadable : n.frame? = none)
    (stays : stage.exit? = none) (rounds : Nat) (x : Exchange) :
    x.converse (peer P) (bound + 1) (rounds + 1) (after (stage, [n])) =
      (none, x, after (stage, [])) := by
  have first : (peer P).frame (bound + 1) (after (stage, [n])) = (.inr .silent, after (stage, [])) := by
    rw [after, List.map_singleton, frame_line numbered, unreadable]
    exact frame_silent stays bound
  rw [Exchange.converse, first]

/-- The last notice of a request is its answer, if it can be read. -/
theorem converse_last (small : id < 0x10000000000000000) (ends : n.Ends)
    (about : n.request? = some (.ofNat id)) (world : μ) (rounds : Nat) :
    Exchange.converse (peer P) (bound + 1) (rounds + 1) ⟨id, cursor⟩ (after (.idle world, [n])) =
      (n.answer?.map fun a => .answered a.1 a.2, ⟨id, cursor⟩, idle world) := by
  have numbered : n.Numbered := Notice.numbered_of_request? about
  cases read : n.frame? with
  | none =>
    rw [Notice.answer?_of_unread small about read]
    exact converse_unread numbered read rfl rounds ⟨id, cursor⟩
  | some frame =>
    obtain ⟨output, error, reaction, answer⟩ :=
      Notice.react_of_ends (e := ⟨id, cursor⟩) ends about read
    have first : (peer P).frame (bound + 1) (after (.idle world, [n])) = (.inl frame, idle world) := by
      rw [after, List.map_singleton, frame_line numbered, read]
      rfl
    rw [Exchange.converse, first]
    dsimp only
    rw [reaction, answer]
    rfl

/-- The end of a program is the end of the conversation. -/
theorem converse_settle (small : id < 0x10000000000000000) (own : e.id = .ofNat id) (world : μ)
    (fate : Fate) (bound rounds : Nat) (cursor : LineCursor) : ∃ left,
      Exchange.converse (peer P) (bound + 1) (rounds + 1) ⟨id, cursor⟩ (after (fate.settle e world)) =
        (fate.executed e.text, ⟨id, cursor⟩, left) ∧ (fate.Told → left = idle world) := by
  cases fate with
  | finished =>
    refine ⟨idle world, (converse_last (n := .done e.id e.text) small trivial (congrArg some own) world
      rounds).trans ?_, fun _ => rfl⟩
    simp only [Notice.answer?, Fate.executed]
    cases Notice.text? e.text <;> rfl
  | raised r =>
    refine ⟨idle world, (converse_last (n := .error e.id e.text r.message r.report) small trivial
      (congrArg some own) world rounds).trans ?_, fun _ => rfl⟩
    simp only [Notice.answer?, Fate.executed]
    cases Notice.text? e.text <;> cases Notice.text? r.message <;> cases Notice.text? r.report <;> rfl
  | killed code =>
    refine ⟨after (.gone code, []), ?_, False.elim⟩
    have first := frame_ended (P := P) (w := ⟨.gone code, []⟩) rfl bound
    rw [Exchange.converse, Fate.settle, after, List.map_nil, first]
    rfl
  | unknown =>
    refine ⟨after (.lost, []), ?_, False.elim⟩
    have first := frame_silent (P := P) (w := ⟨.lost, []⟩) rfl (bound + 1)
    rw [Exchange.converse, Fate.settle, after, List.map_nil, first]
    rfl

variable {q : Question} {gathered : Points} {resume : Answer → Play (Fate × μ)}

/-- A worker that asks takes what it is sent as its answer. -/
theorem send_reply (own : e.id = .ofNat id) (q : Question) (gathered : Points)
    (resume : Answer → Play (Fate × μ)) (line : Option String) :
    (peer P).send (after (.asking e q gathered resume, [])) (.inputReply id line) =
      (none, after (Worker.answer e q gathered resume (valueOf line))) := by
  have heard := Worker.hearLine_reply_asking P own q gathered resume [] id line
  rw [if_pos rfl] at heard
  dsimp only at heard
  rw [Worker.takeUp_nil, List.append_nil] at heard
  rw [after, send_alive rfl, heard]
  rfl

/-- A worker that asks is answered with the next line. -/
theorem converse_ask (small : id < 0x10000000000000000) (own : e.id = .ofNat id) (legible : q.legible)
    (rounds : Nat) :
    Exchange.converse (peer P) (bound + 1) (rounds + 1) ⟨id, cursor⟩
        (after (.asking e q gathered resume, [.input e.id q.prompt])) =
      Exchange.converse (peer P) (bound + 1) rounds ⟨id, cursor.next.2⟩
        (after (Worker.answer e q gathered resume (valueOf cursor.next.1))) := by
  obtain ⟨prompt, read⟩ := Option.isSome_iff_exists.mp legible
  have frame : (Notice.input e.id q.prompt).frame? = some (.input id prompt) := by
    simp [Notice.frame?, own, Notice.number?_ofNat small, read]
  have numbered : (Notice.input e.id q.prompt).Numbered := ⟨id, own⟩
  have first : (peer P).frame (bound + 1) (after (.asking e q gathered resume, [.input e.id q.prompt])) =
      (.inl (.input id prompt), after (.asking e q gathered resume, [])) := by
    rw [after, List.map_singleton, frame_line numbered, frame]
    rfl
  have reaction : Exchange.react ⟨id, cursor⟩ (.input id prompt) =
      .reply (.inputReply id cursor.next.1) ⟨id, cursor.next.2⟩ := if_pos rfl
  have sent : (peer P).send (after (.asking e q gathered resume, [])) (.inputReply id cursor.next.1) =
      (none, after (Worker.answer e q gathered resume (valueOf cursor.next.1))) :=
    send_reply own q gathered resume cursor.next.1
  rw [Exchange.converse, first]
  dsimp only
  rw [reaction]
  dsimp only
  rw [sent]

variable {stdin : List String} {s : Ledger}

/-- A worker that asks hears of the first of the lines that are left, or of their end. -/
theorem converse_next (small : id < 0x10000000000000000) (h : e.Matches stdin id s) (legible : q.legible)
    (rounds : Nat) :
    Exchange.converse (peer P) (bound + 1) (rounds + 1) ⟨id, ⟨stdin, s.pulled.length⟩⟩
        (after (.asking e q gathered resume, [.input e.id q.prompt])) =
      Exchange.converse (peer P) (bound + 1) rounds
        ⟨id, ⟨stdin, s.pulled.length + (s.lines.take 1).length⟩⟩
        (after (Worker.answer e q gathered resume (valueOf s.lines.head?))) := by
  rw [converse_ask small h.own legible, h.cursor]

/-- A question for all lines takes one line after another up to the end. -/
theorem converse_all (small : id < 0x10000000000000000) {lines : List String} (h : e.Matches stdin id s)
    (left : s.lines = lines) (gathered : Points) (resume : Answer → Play (Fate × μ)) :
    ∃ n, ∃ e' : Errand,
      e'.Matches stdin id ⟨s.deeds ++ lines.map (.took [] · true), []⟩ ∧ ∀ bound rounds,
        Exchange.converse (peer P) (bound + 1) (rounds + n) ⟨id, ⟨stdin, s.pulled.length⟩⟩
            (after (.asking e .all gathered resume, [.input e.id []])) =
          Exchange.converse (peer P) (bound + 1) rounds ⟨id, ⟨stdin, s.pulled.length + lines.length⟩⟩
            (after (proceed e' (resume (.text
              (gathered ++ lines.flatMap fun line => pts line ++ [10]))))) := by
  induction lines generalizing e s gathered with
  | nil =>
    refine ⟨1, { e with exhausted := true }, ?_, fun bound rounds => ?_⟩
    · have same : Ledger.mk (s.deeds ++ []) [] = s := by rw [List.append_nil, ← left]
      exact same.symm ▸ h.spend left
    · refine (converse_next (q := .all) small h (by decide) rounds).trans ?_
      have heard : e.hear .all gathered (valueOf none) =
          ({ e with exhausted := true }, .inl (.text gathered)) := rfl
      rw [left, List.head?_nil, Worker.answer_of_hear heard, List.flatMap_nil, List.append_nil]
      rfl
  | cons line rest ih =>
    obtain ⟨n, e', matched, later⟩ := ih (h.echo left) rfl (gathered ++ pts line ++ [10])
    refine ⟨n + 1, e', ?_, fun bound rounds => ?_⟩
    · simpa using matched
    · refine (converse_next (q := .all) small h (by decide) (rounds + n)).trans ?_
      have more : Worker.answer e .all gathered resume (valueOf (some line)) =
          (.asking (e.echo (pts line)) .all (gathered ++ pts line ++ [10]) resume,
            [.input (e.echo (pts line)).id []]) := rfl
      have pulled : Ledger.pulled ⟨s.deeds ++ [.took [] line true], rest⟩ = s.pulled ++ [line] :=
        Ledger.pulled_note (s := s) (d := .took [] line true)
      rw [pulled] at later
      rw [left, List.head?_cons, more]
      simpa [Nat.add_assoc, Nat.add_comm, Nat.add_left_comm] using later bound rounds

/-- A question that is asked of the host is answered as if the lines were read directly. -/
theorem converse_question (small : id < 0x10000000000000000) (h : e.Matches stdin id s) (legible : q.legible)
    (resume : Answer → Play (Fate × μ)) :
    ∃ n, ∃ e' : Errand, e'.Matches stdin id (s.ask q).2 ∧ ∀ bound rounds,
      Exchange.converse (peer P) (bound + 1) (rounds + n) ⟨id, ⟨stdin, s.pulled.length⟩⟩
          (after (.asking e q [] resume, [.input e.id q.prompt])) =
        Exchange.converse (peer P) (bound + 1) rounds ⟨id, ⟨stdin, (s.ask q).2.pulled.length⟩⟩
          (after (proceed e' (resume (q.reply (q.taken s.lines))))) := by
  by_cases single : q = .all
  · subst single
    obtain ⟨n, e', matched, later⟩ := converse_all (P := P) small h rfl [] resume
    refine ⟨n, e', ?_, fun bound rounds => ?_⟩
    · rw [s.ask_all]
      exact matched
    · rw [Ledger.pulled_ask legible, List.length_append]
      exact later bound rounds
  · obtain ⟨e', heard, matched⟩ := h.hear q single legible
    refine ⟨1, e', matched, fun bound rounds => ?_⟩
    have taken : q.taken s.lines = s.lines.take 1 := by
      cases q <;> first | rfl | exact absurd rfl single
    rw [Ledger.pulled_ask legible, List.length_append]
    refine (converse_next small h legible rounds).trans ?_
    rw [Worker.answer_of_hear heard, taken]

/-- From a turn of the worker on, with so many lines handed out before, the conversation comes to what
a program has come to that reads directly. -/
def ComesTo (P : Programs μ) (id : Nat) (stdin : List String) (position : Nat)
    (turn : Stage μ × List Notice) (run : Option (Fate × μ) × Ledger) : Prop :=
  ∃ n, ∀ bound rounds, ∃ left,
    Exchange.converse (peer P) (bound + 1) (rounds + n) ⟨id, ⟨stdin, position⟩⟩ (after turn) =
      (run.1.bind fun x => x.1.executed run.2.output, ⟨id, ⟨stdin, run.2.pulled.length⟩⟩, left) ∧
    ∀ fate world, run.1 = some (fate, world) → fate.Told → left = idle world

/-- A program that reads from afar comes to the same as one that reads directly. -/
theorem comesTo_play (small : id < 0x10000000000000000) (play : Play (Fate × μ)) (h : e.Matches stdin id s) :
    ComesTo P id stdin s.pulled.length (proceed e play) (play.handle Ledger.handler s) := by
  induction play generalizing e s with
  | done x =>
    obtain ⟨fate, world⟩ := x
    refine ⟨1, fun bound rounds => ?_⟩
    obtain ⟨left, told, stays⟩ :=
      converse_settle (P := P) small h.own world fate bound rounds ⟨stdin, s.pulled.length⟩
    refine ⟨left, told.trans ?_, ?_⟩
    · rw [h.text]
      rfl
    · rintro fate' world' ended
      cases ended
      exact stays
  | write p next ih =>
    have more := ih () (h.put p)
    rwa [Ledger.pulled_note_of_none rfl] at more
  | cut next ih =>
    have more := ih () h.cutOff
    rwa [Ledger.pulled_note_of_none rfl] at more
  | lookBack next ih =>
    have looks : proceed e (.lookBack next) = proceed e (next e.whole) := rfl
    rw [looks, h.everything]
    exact ih s.everything h
  | ask q next ih =>
    by_cases known : (q.reads && e.exhausted) = true
    · -- the worker does not ask for lines once it knows that there are no more
      obtain ⟨reads, spent⟩ := Bool.and_eq_true_iff.mp known
      have legible : q.legible := Ledger.legible_of_reads reads
      have answered : Ledger.handler.ask s q = (some (.text []), s) := by
        have none_left := Ledger.ask_end legible (h.spent spent)
        cases q <;> first | exact none_left | cases reads
      rw [Play.handle_ask answered, proceed, if_pos known]
      exact ih (.text []) h
    · rw [proceed, if_neg known]
      by_cases legible : q.legible
      · obtain ⟨n, e', matched, answers⟩ :=
          converse_question (P := P) small h legible next
        have answered : Ledger.handler.ask s q = (some (q.reply (q.taken s.lines)), (s.ask q).2) :=
          Ledger.handler_ask legible
        rw [Play.handle_ask answered]
        obtain ⟨m, later⟩ := ih (q.reply (q.taken s.lines)) matched
        refine ⟨m + n, fun bound rounds => ?_⟩
        rw [← Nat.add_assoc, answers]
        exact later bound rounds
      · have unanswered : (Play.ask q next).handle Ledger.handler s = (none, s) := by
          have silence : Ledger.handler.ask s q = (none, s) := if_neg legible
          rw [Play.handle, silence]
        have unreadable : (Notice.input e.id q.prompt).frame? = none := by
          have prompt : Notice.text? q.prompt = none := by simpa [Question.legible] using legible
          simp [Notice.frame?, prompt]
        rw [unanswered]
        have numbered : (Notice.input e.id q.prompt).Numbered := ⟨id, h.own⟩
        refine ⟨1, fun bound rounds => ⟨_, converse_unread numbered unreadable rfl rounds _, ?_⟩⟩
        intro fate world ended
        cases ended

/-! ## A whole request -/

/-- A worker that waits takes up a request at once. -/
theorem send_exec (id : Nat) (source : String) (world : μ) :
    (peer P).send (idle world) (.exec id source) =
      (none, after (proceed (.fresh (.ofNat id)) (P (pts source) world))) := by
  have heard := Worker.hearLine_exec_idle P world [] id source
  rw [List.nil_append, Worker.takeUp_cons] at heard
  dsimp only at heard
  rw [Worker.takeUp_nil, List.append_nil] at heard
  rw [idle, after, send_alive rfl, heard]
  rfl

/-- A request on a process that waits comes to the same as if its program read its lines directly, given
enough room for the conversation. -/
theorem execute_eq_read {P : Programs μ} {id : Nat} (small : id < 0x10000000000000000) (world : μ)
    (request : Request) :
    let run := (P (pts request.source) world).read request.stdin
    ∃ least, ∀ bound ≥ least, ∃ left,
      Exchange.execute (peer P) bound id request (idle world) =
        (run.1.bind fun x => x.1.executed run.2.output,
          ⟨id, ⟨request.stdin, run.2.pulled.length⟩⟩, left) ∧
      ∀ fate world', run.1 = some (fate, world') → fate.Told → left = idle world' := by
  intro run
  obtain ⟨n, told⟩ := comesTo_play (P := P) small (P (pts request.source) world) (.fresh id request.stdin)
  refine ⟨n + 1, fun bound enough => ?_⟩
  obtain ⟨room, rfl⟩ := Nat.exists_eq_add_of_le' enough
  have sent : (peer P).send (idle world) (.exec id request.source) =
      (none, after (proceed (.fresh (.ofNat id)) (P (pts request.source) world))) :=
    send_exec id request.source world
  obtain ⟨left, ended, stays⟩ := told (room + n) (room + 1)
  refine ⟨left, ?_, stays⟩
  have rounds : room + 1 + n = room + (n + 1) := by omega
  rw [rounds] at ended
  rw [Exchange.execute, sent]
  exact ended

/-- What a request on a process that waits comes to, for a program of which it is known how it reads its lines
directly. -/
theorem execute_of_read {P : Programs μ} {id taken : Nat} (small : id < 0x10000000000000000) (world : μ)
    {request : Request} {executed : Option Executed}
    (known : let run := (P (pts request.source) world).read request.stdin
      (run.1.bind fun x => x.1.executed run.2.output) = executed ∧ run.2.pulled.length = taken) :
    ∃ least, ∀ bound ≥ least, ∃ left,
      Exchange.execute (peer P) bound id request (idle world) =
        (executed, ⟨id, ⟨request.stdin, taken⟩⟩, left) := by
  obtain ⟨comes, count⟩ := known
  obtain ⟨least, told⟩ := execute_eq_read (P := P) small world request
  refine ⟨least, fun bound enough => ?_⟩
  obtain ⟨left, told, -⟩ := told bound enough
  exact ⟨left, by rw [told, comes, count]⟩

/-- Whatever a program does with the lines of its request, it takes them in order, none is lost between it
and the host, and the host counts those that are taken. Each way to read takes and echoes a line at a time, up
to the end of the lines. A line that has been taken is lost to the program exactly if the captured output has
been closed, or a prompt cannot be put into words once more. -/
theorem lines_handed_out {id : Nat} (small : id < 0x10000000000000000) (m : Machine) (request : Request) :
    (∀ (E : Engine) (m : Machine) (s : Ledger), E.ReadsLines m s) ∧
    let run := (runSource (pts request.source) m).read request.stdin
    run.2.pulled ++ run.2.lines = request.stdin ∧
    ∃ least, ∀ bound ≥ least, ∃ left,
      Exchange.execute (peer runSource) bound id request (idle m) =
        (run.1.bind fun x => x.1.executed run.2.output,
          ⟨id, ⟨request.stdin, run.2.pulled.length⟩⟩, left) ∧
      ∀ fate m', run.1 = some (fate, m') → fate.Told → left = idle m' :=
  ⟨Engine.readsLines, Play.whole_read _ _, execute_eq_read small m request⟩

theorem line_handed_out_under_prompt :
    1 < 0x10000000000000000 ∧ Machine.fresh.closed = false ∧
    ((engine 2).input Machine.fresh.serial [.str (pts "a ")] []).reads .fresh ⟨[], ["x", "y"]⟩ =
      (some (.ok (.str (pts "x")), .fresh),
        ⟨[.took (pts "a ") "x" false, .wrote (echoOf (pts "a ") (pts "x"))], ["y"]⟩) ∧
    ∃ least, ∀ bound ≥ least, ∃ left,
      Exchange.execute (peer runSource) bound 1 ⟨"print(input('a '))", .python, ["x", "y"]⟩
          (idle .fresh) =
        (some (.answered "📥 a x\nx\n" none), ⟨1, ⟨["x", "y"], 1⟩⟩, left) := by
  have small : 1 < 0x10000000000000000 := by decide
  obtain ⟨reads, -, least, told⟩ :=
    lines_handed_out small .fresh ⟨"print(input('a '))", .python, ["x", "y"]⟩
  have said : ((engine 2).text (.str (pts "a "))).reads .fresh ⟨[], ["x", "y"]⟩ =
      (some (.ok (pts "a "), .fresh), ⟨[], ["x", "y"]⟩) := rfl
  have asked := (reads (engine 2) .fresh ⟨[], ["x", "y"]⟩).input (.plain _) said (by decide)
  have given := (asked.given rfl (.str (pts "x")) .fresh _).mpr
    ⟨pts "a ", _, Engine.reads_text (pts "a "), rfl, rfl, rfl⟩
  refine ⟨small, rfl, given, least, fun bound enough => ?_⟩
  obtain ⟨left, told, -⟩ := told bound enough
  have run : let run := (runSource (pts "print(input('a '))") .fresh).read ["x", "y"]
      (run.1.bind fun x => x.1.executed run.2.output) = some (.answered "📥 a x\nx\n" none) ∧
        run.2.pulled.length = 1 := by
    decide +kernel
  refine ⟨left, told.trans ?_⟩
  rw [run.1, run.2]

/-- A prompt that can be put into words only once. -/
def promptSaidOnce : String :=
  "class P:\n    def __str__(self, said=[]):\n        if said:\n            raise ValueError\n" ++
    "        said.append(1)\n        return 'name? '\ninput(P())\n"

/-- The prompt is put into words again once the line has been taken; the line is neither echoed nor given
to the program then. -/
theorem line_lost_under_prompt : ∃ least, ∀ bound ≥ least, ∃ left,
    Exchange.execute (peer runSource) bound 1 ⟨promptSaidOnce, .python, ["Ada"]⟩ (idle .fresh) =
      (some (.answered "" (some ((ErrorDetail.ofMessage "ValueError: ").withTrace
        (some "Traceback (most recent call last):\nValueError\n")))), ⟨1, ⟨["Ada"], 1⟩⟩, left) := by
  have small : 1 < 0x10000000000000000 := by decide
  refine execute_of_read (P := runSource) small .fresh ?_
  decide +kernel

end Process

end Snippet.Guest
