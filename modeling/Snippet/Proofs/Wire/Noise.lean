import Mathlib.Data.List.TakeWhile
import Snippet.Proofs.Text.Decoding
import Snippet.Proofs.Text.Lines
import Snippet.Wire.StandIn

/-!
# Noise on the pipe

Programs can write to the pipe of their interpreter past the worker, so a host finds lines there that are no
frames. Reading frame after frame from a stand-in comes to what its lines say, one after another
(`StandIn.frames_eq`), and a line that is no frame says nothing, as long as it is UTF-8; so what is read does
not change when the line is taken away. On any peer, a line that says nothing makes a conversation take one
line more and changes nothing else (`Peer.frame_disturbed`, `Peer.Follows`). A line that is not UTF-8 is heard
as a failure of the pipe, and ends the session that it falls into (`noise_unheard_iff`).
-/

namespace Snippet.Wire

open Text Interpreter

/-! ## What lines say -/

/-- What an arrival says to a host that waits for a frame; a line that is no frame says nothing. -/
def Arrival.said? : Arrival → Option (DriverFrame ⊕ Arrival)
  | .line text => (DriverFrame.ofLine? text).map .inl
  | arrival => some (.inr arrival)

/-- The frame that a line of bytes is, with the end of the line among them. -/
def DriverFrame.ofBytes? (line : List UInt8) : Option DriverFrame :=
  match Arrival.ofBytes line with
  | .line text => DriverFrame.ofLine? text
  | _ => none

/-- The bytes are UTF-8. -/
def IsUtf8 (bytes : List UInt8) : Prop := ∃ text, Utf8.decode? bytes = some text

section Lines

variable {line : List UInt8}

/-- A line says nothing if it is no frame and UTF-8. -/
theorem said?_ofBytes_eq_none_iff :
    (Arrival.ofBytes line).said? = none ↔ DriverFrame.ofBytes? line = none ∧ IsUtf8 line := by
  unfold DriverFrame.ofBytes? Arrival.ofBytes
  rw [IsUtf8, ← Utf8.fault?_eq_none_iff]
  cases Utf8.fault? line with
  | some fault => simp [Arrival.said?]
  | none => simp [Arrival.said?]

/-- A line that is not UTF-8 is a failure. -/
theorem ofBytes_of_broken (broken : ¬ IsUtf8 line) : ∃ reason, Arrival.ofBytes line = .failed reason := by
  unfold Arrival.ofBytes
  cases found : Utf8.fault? line with
  | none => exact absurd ((Utf8.fault?_eq_none_iff line).mp found) broken
  | some fault => exact ⟨fault.message, rfl⟩

end Lines

/-! ## Reading frames -/

section Frames

variable {σ : Type}

/-- Reading goes on to the first arrival that says something. -/
theorem Peer.frame_succ (P : Peer σ) (bound : Nat) (s : σ) :
    P.frame (bound + 1) s =
      match (P.receive s).1.said? with
      | some next => (next, (P.receive s).2)
      | none => P.frame bound (P.receive s).2 := by
  rw [Peer.frame]
  obtain ⟨arrival, t⟩ := P.receive s
  cases arrival with
  | line text =>
    dsimp only [Arrival.said?]
    cases DriverFrame.ofLine? text <;> rfl
  | _ => rfl

/-- What is read when frames are asked for one after another, so many times. -/
def Peer.frames (P : Peer σ) (bound : Nat) : Nat → σ → List (DriverFrame ⊕ Arrival)
  | 0, _ => []
  | n + 1, s => (P.frame bound s).1 :: P.frames bound n (P.frame bound s).2

end Frames

/-! ## Lines of a stand-in -/

/-- If a list with one item in front is the same as with another at its end, the items are the same. -/
theorem eq_of_cons_eq_concat {α : Type} {x y : α} {l : List α} (same : x :: l = l ++ [y]) : x = y := by
  induction l generalizing x with
  | nil => exact List.head_eq_of_cons_eq same
  | cons z l ih =>
    rw [List.cons_append] at same
    exact (List.head_eq_of_cons_eq same).trans (ih (List.tail_eq_of_cons_eq same))

namespace StandIn

variable {s : StandIn} {body rest before line behind : List UInt8} {bound : Nat}

/-- The lines that a stand-in has written, each with its end. What it leaves unfinished is a line once it
has ended. -/
def lines (s : StandIn) : List (List UInt8) :=
  (terminated 10 s.outbox).1.map (· ++ [10]) ++
    if s.exited = true ∧ (terminated 10 s.outbox).2 ≠ [] then [(terminated 10 s.outbox).2] else []

/-- What comes when all lines have been read. -/
def afterwards (s : StandIn) : Arrival := if s.exited then .ended else .silent

/-- What the lines say, one after another. -/
def said (s : StandIn) : List (DriverFrame ⊕ Arrival) :=
  s.lines.filterMap fun line => (Arrival.ofBytes line).said?

theorem said?_afterwards (s : StandIn) : s.afterwards.said? = some (.inr s.afterwards) := by
  unfold afterwards
  cases s.exited <;> rfl

/-- What a line says is not that there are no more lines. -/
theorem said?_ofBytes_ne {word : DriverFrame ⊕ Arrival} (heard : (Arrival.ofBytes line).said? = some word)
    (s : StandIn) : word ≠ .inr s.afterwards := by
  rintro rfl
  revert heard
  unfold Arrival.ofBytes afterwards
  cases Utf8.fault? line <;> cases s.exited <;> simp [Arrival.said?]

theorem lines_cut (is : s.outbox = body ++ 10 :: rest) (inside : 10 ∉ body) :
    s.lines = (body ++ [10]) :: lines { s with outbox := rest } := by
  simp only [lines, is, terminated_cut inside, List.map_cons, List.cons_append]

theorem lines_open (inside : 10 ∉ s.outbox) :
    s.lines = if s.exited = true ∧ s.outbox ≠ [] then [s.outbox] else [] := by
  simp only [lines, terminated_open inside, List.map_nil, List.nil_append]

/-- The next line is read, or there is none. -/
theorem receive_eq (s : StandIn) :
    (∃ line more rest, s.lines = line :: more ∧ s.receive = (.ofBytes line, { s with outbox := rest }) ∧
      lines { s with outbox := rest } = more) ∨
    s.lines = [] ∧ s.receive = (s.afterwards, s) := by
  by_cases ends : 10 ∈ s.outbox
  · obtain ⟨body, rest, is, inside⟩ := List.eq_append_cons_of_mem ends
    have others : ∀ b ∈ body, (b != 10) = true := fun b mem => bne_iff_ne.mpr fun eq => inside (eq ▸ mem)
    refine .inl ⟨_, _, rest, lines_cut is inside, ?_, rfl⟩
    rw [receive, is, List.takeWhile_append_of_pos others, List.dropWhile_append_of_pos others]
    simp
  · have others : ∀ b ∈ s.outbox, (b != 10) = true := fun b mem => bne_iff_ne.mpr fun eq => ends (eq ▸ mem)
    have front : s.outbox.takeWhile (· != 10) = s.outbox := List.takeWhile_eq_self_iff.mpr others
    have back : s.outbox.dropWhile (· != 10) = [] := List.dropWhile_eq_nil_iff.mpr others
    rw [receive, front, back, lines_open ends]
    by_cases closed : s.exited = true
    · by_cases mute : s.outbox = []
      · exact .inr (by simp [afterwards, closed, mute])
      · refine .inl ⟨s.outbox, [], [], if_pos ⟨closed, mute⟩, ?_, ?_⟩
        · simp [closed, mute]
        · exact (lines_open List.not_mem_nil).trans (if_neg fun both => both.2 rfl)
    · exact .inr (by simp [afterwards, closed])

/-- The next frame is what is said next; when all has been said, it is what comes afterwards. -/
theorem frame_said (s : StandIn) (room : s.lines.length < bound) :
    ∃ rest, peer.frame bound s = (s.said.headD (.inr s.afterwards), { s with outbox := rest }) ∧
      said { s with outbox := rest } = s.said.tail ∧
      (lines { s with outbox := rest }).length ≤ s.lines.length := by
  induction bound generalizing s with
  | zero => exact absurd room (Nat.not_lt_zero _)
  | succ bound ih =>
    have received : peer.receive s = s.receive := rfl
    rw [Peer.frame_succ, received]
    obtain ⟨line, more, rest, are, next, others⟩ | ⟨spent, next⟩ := receive_eq s
    · have shorter : (lines { s with outbox := rest }).length < s.lines.length := by
        rw [are, others]
        exact Nat.lt_succ_self _
      have saying : s.said = (Arrival.ofBytes line).said?.toList ++ said { s with outbox := rest } := by
        rw [said, are, said, others, List.filterMap_cons]
        cases (Arrival.ofBytes line).said? <;> rfl
      rw [next, saying]
      cases heard : (Arrival.ofBytes line).said? with
      | some word => exact ⟨rest, rfl, rfl, Nat.le_of_lt shorter⟩
      | none =>
        -- the line is passed over, and there is one less for a bound that is one less
        have within : (lines { s with outbox := rest }).length < bound := by omega
        obtain ⟨rest', frame, behind, fewer⟩ := ih { s with outbox := rest } within
        exact ⟨rest', frame, behind, Nat.le_trans fewer (Nat.le_of_lt shorter)⟩
    · have quiet : s.said = [] := by rw [said, spent, List.filterMap_nil]
      rw [next, said?_afterwards, quiet]
      exact ⟨s.outbox, rfl, quiet, Nat.le_refl _⟩

/-- Reading frame after frame comes to what the lines say, one after another, and in the end to what comes
afterwards. -/
theorem frames_eq (n : Nat) (s : StandIn) (room : s.lines.length < bound) :
    peer.frames bound n s = (s.said ++ List.replicate n (Sum.inr s.afterwards)).take n := by
  induction n generalizing s with
  | zero => rfl
  | succ n ih =>
    obtain ⟨rest, frame, behind, fewer⟩ := frame_said s room
    rw [Peer.frames, frame, ih _ (Nat.lt_of_le_of_lt fewer room), behind]
    have same : afterwards { s with outbox := rest } = s.afterwards := rfl
    rw [same]
    cases s.said with
    | nil => simp [List.replicate_succ]
    | cons word words => simp [List.replicate_succ', ← List.append_assoc, List.take_append_of_le_length]

/-! ### A line among others -/

/-- A line in what a stand-in has written: it begins where a line ends, and it ends with the end of a line or,
once the stand-in has ended, with the last byte. -/
structure Between (s : StandIn) (before line behind : List UInt8) : Prop where
  whole : s.outbox = before ++ (line ++ behind)
  begins : (terminated 10 before).2 = []
  ends : (∃ body, 10 ∉ body ∧ line = body ++ [10]) ∨ 10 ∉ line ∧ line ≠ [] ∧ behind = [] ∧ s.exited = true

theorem lines_behind (begins : (terminated 10 before).2 = []) (rest : List UInt8) :
    lines { s with outbox := before ++ rest } =
      (terminated 10 before).1.map (· ++ [10]) ++ lines { s with outbox := rest } := by
  simp only [lines, terminated_append, begins, List.nil_append, List.map_append, List.append_assoc]

theorem Between.lines_eq (between : s.Between before line behind) :
    s.lines = (terminated 10 before).1.map (· ++ [10]) ++ line :: lines { s with outbox := behind } := by
  have here : { s with outbox := before ++ (line ++ behind) } = s := by rw [← between.whole]
  rw [← here, lines_behind between.begins]
  congr 1
  obtain ⟨body, inside, rfl⟩ | ⟨inside, written, rfl, closed⟩ := between.ends
  · exact lines_cut (List.append_assoc body [10] behind) inside
  · rw [List.append_nil, lines_open inside, if_pos ⟨closed, written⟩]
    rw [lines_open List.not_mem_nil, if_neg fun both => both.2 rfl]

theorem Between.said_eq (between : s.Between before line behind) : ∃ front back,
    said { s with outbox := before ++ behind } = front ++ back ∧
      s.said = front ++ ((Arrival.ofBytes line).said?.toList ++ back) := by
  refine ⟨((terminated 10 before).1.map (· ++ [10])).filterMap fun line => (Arrival.ofBytes line).said?,
    said { s with outbox := behind }, ?_, ?_⟩
  · rw [said, lines_behind between.begins, List.filterMap_append, said]
  · rw [said, between.lines_eq, List.filterMap_append, List.filterMap_cons, said]
    cases (Arrival.ofBytes line).said? <;> rfl

/-- There are no more lines than bytes. -/
theorem lines_length_le (s : StandIn) : s.lines.length ≤ s.outbox.length := by
  have here := terminated_length_le 10 s.outbox
  rw [lines, List.length_append, List.length_map]
  split
  · next unfinished =>
    have := List.length_pos_iff.mpr unfinished.2
    rw [List.length_singleton]
    omega
  · rw [List.length_nil]
    omega

/-- It makes no difference to what is read that a line is there, if it says nothing, and only then. -/
theorem Between.frames_eq_iff (between : s.Between before line behind) (room : s.outbox.length < bound) :
    (∀ n, peer.frames bound n s = peer.frames bound n { s with outbox := before ++ behind }) ↔
      (Arrival.ofBytes line).said? = none := by
  have within : s.lines.length < bound := Nat.lt_of_le_of_lt (lines_length_le s) room
  have fewer : (lines { s with outbox := before ++ behind }).length < bound := by
    rw [lines_behind between.begins, List.length_append]
    rw [between.lines_eq, List.length_append, List.length_cons] at within
    omega
  obtain ⟨front, back, without, withLine⟩ := between.said_eq
  constructor
  · intro same
    cases heard : (Arrival.ofBytes line).said? with
    | none => rfl
    | some word =>
      -- all that is said with the line there; without it, what comes afterwards is read once
      have read := same (front.length + (back.length + 1))
      rw [frames_eq _ s within, frames_eq _ _ fewer, withLine, without, heard] at read
      have shifted : word :: back = back ++ [.inr s.afterwards] := by
        have once : min 1 (front.length + (back.length + 1)) = 1 := by omega
        simpa [List.take_append, List.take_of_length_le, List.take_replicate, once, afterwards] using read
      exact absurd (eq_of_cons_eq_concat shifted) (said?_ofBytes_ne heard s)
  · intro unheard n
    rw [frames_eq n s within, frames_eq n _ fewer, withLine, without, unheard]
    rfl

end StandIn

/-! ## Sessions -/

section Simulation

variable {σ τ : Type} {P : Peer σ} {Q : Peer τ} {R : σ → τ → Prop} {lines lines' : Nat}

/-- What is read from `P` within a bound is read from `Q` within another, and `Q` takes frames as `P` does.
Nothing follows from a bound that is reached in silence. -/
structure Peer.Follows (Q : Peer τ) (P : Peer σ) (R : σ → τ → Prop) (lines lines' : Nat) : Prop where
  frame : ∀ {s t}, R s t → ∀ {word s'}, P.frame lines s = (word, s') → word ≠ .inr .silent →
    ∃ t', Q.frame lines' t = (word, t') ∧ R s' t'
  send : ∀ {s t}, R s t → ∀ {frame refusal s'}, P.send s frame = (refusal, s') →
    ∃ t', Q.send t frame = (refusal, t') ∧ R s' t'

/-- A conversation goes the same way with a peer that follows. -/
theorem Peer.Follows.converse (follows : Q.Follows P R lines lines') {n n' : Nat} (room : n ≤ n')
    {e e' : Exchange} {s s' : σ} {t : τ} {x : Executed} (related : R s t)
    (comes : Exchange.converse P lines n e s = (some x, e', s')) :
    ∃ t', Exchange.converse Q lines' n' e t = (some x, e', t') ∧ R s' t' := by
  induction n generalizing n' e s t with
  | zero => simp [Exchange.converse] at comes
  | succ n ih =>
    obtain ⟨n', rfl⟩ : ∃ m, n' = m + 1 := ⟨n' - 1, by omega⟩
    have fewer : n ≤ n' := Nat.le_of_succ_le_succ room
    rw [Exchange.converse] at comes ⊢
    obtain ⟨word, s₁, read⟩ : ∃ word s₁, P.frame lines s = (word, s₁) := ⟨_, _, rfl⟩
    rw [read] at comes
    -- a conversation that comes to something has not stopped at a silence
    have heard : word ≠ .inr .silent := by
      rintro rfl
      cases comes
    obtain ⟨t₁, readToo, related₁⟩ := follows.frame related read heard
    rw [readToo]
    match word with
    | .inr .ended | .inr (.failed _) =>
      cases comes
      exact ⟨t₁, rfl, related₁⟩
    | .inr (.line _) | .inr .silent => cases comes
    | .inl frame =>
      dsimp only at comes ⊢
      cases reacts : e.react frame with
      | ignore =>
        rw [reacts] at comes
        exact ih fewer related₁ comes
      | answer output error =>
        rw [reacts] at comes
        cases comes
        exact ⟨t₁, rfl, related₁⟩
      | reply reply next =>
        rw [reacts] at comes
        obtain ⟨refusal, s₂, sent⟩ : ∃ refusal s₂, P.send s₁ reply = (refusal, s₂) := ⟨_, _, rfl⟩
        obtain ⟨t₂, sentToo, related₂⟩ := follows.send related₁ sent
        dsimp only at comes ⊢
        rw [sent] at comes
        rw [sentToo]
        cases refusal with
        | none => exact ih fewer related₂ comes
        | some reason =>
          cases comes
          exact ⟨t₂, rfl, related₂⟩

/-- A request goes the same way with a peer that follows. -/
theorem Peer.Follows.execute {bound bound' id : Nat} {request : Request} (follows : Q.Follows P R bound bound')
    (room : bound ≤ bound') {e' : Exchange} {s s' : σ} {t : τ} {x : Executed} (related : R s t)
    (comes : Exchange.execute P bound id request s = (some x, e', s')) :
    ∃ t', Exchange.execute Q bound' id request t = (some x, e', t') ∧ R s' t' := by
  rw [Exchange.execute] at comes ⊢
  obtain ⟨refusal, s₁, sent⟩ : ∃ refusal s₁, P.send s (.exec id request.source) = (refusal, s₁) := ⟨_, _, rfl⟩
  obtain ⟨t₁, sentToo, related₁⟩ := follows.send related sent
  rw [sent] at comes
  rw [sentToo]
  cases refusal with
  | none => exact follows.converse room related₁ comes
  | some reason =>
    cases comes
    exact ⟨t₁, rfl, related₁⟩

end Simulation

section Disturbance

variable {σ : Type} {P : Peer σ} {s : σ} {line : List UInt8}

/-- A peer whose pipe carries a line more. It comes when so many other lines have been read, if it is still
to come. -/
def Peer.disturbed (P : Peer σ) (line : List UInt8) : Peer (σ × Option Nat) where
  send := fun (s, wait) frame => ((P.send s frame).1, ((P.send s frame).2, wait))
  receive
    | (s, none) => ((P.receive s).1, ((P.receive s).2, none))
    | (s, some 0) => (.ofBytes line, (s, none))
    | (s, some (wait + 1)) => ((P.receive s).1, ((P.receive s).2, some wait))

/-- A bound that is not reached can be raised. -/
theorem Peer.frame_mono {bound bound' : Nat} (room : bound ≤ bound') {word : DriverFrame ⊕ Arrival} {s' : σ}
    (read : P.frame bound s = (word, s')) (heard : word ≠ .inr .silent) : P.frame bound' s = (word, s') := by
  induction bound generalizing s bound' with
  | zero => exact absurd (congrArg Prod.fst read).symm heard
  | succ bound ih =>
    obtain ⟨bound', rfl⟩ : ∃ m, bound' = m + 1 := ⟨bound' - 1, by omega⟩
    rw [Peer.frame_succ] at read ⊢
    cases spoken : (P.receive s).1.said? with
    | some next =>
      rw [spoken] at read
      exact read
    | none =>
      rw [spoken] at read
      exact ih (Nat.le_of_succ_le_succ room) read

/-- A line that has come does not come again. -/
theorem Peer.frame_passed (bound : Nat) (s : σ) : (P.disturbed line).frame bound (s, none) =
    ((P.frame bound s).1, ((P.frame bound s).2, none)) := by
  induction bound generalizing s with
  | zero => rfl
  | succ bound ih =>
    have next : (P.disturbed line).receive (s, none) = ((P.receive s).1, ((P.receive s).2, none)) := rfl
    rw [Peer.frame_succ, next, Peer.frame_succ]
    cases (P.receive s).1.said? with
    | some word => rfl
    | none => exact ih (P.receive s).2

/-- A line that says nothing is passed over: reading takes one line more, or the line has not come yet. -/
theorem Peer.frame_disturbed (unheard : (Arrival.ofBytes line).said? = none) (bound : Nat) (s : σ)
    (wait : Option Nat) : ∃ more ≤ 1, ∃ wait', (P.disturbed line).frame (bound + more) (s, wait) =
      ((P.frame bound s).1, ((P.frame bound s).2, wait')) := by
  induction bound generalizing s wait with
  | zero => exact ⟨0, Nat.zero_le 1, wait, rfl⟩
  | succ bound ih =>
    match wait with
    | none => exact ⟨0, Nat.zero_le 1, none, Peer.frame_passed (bound + 1) s⟩
    | some 0 =>
      -- the line comes now; what is read behind it is what would have been read in its place
      have next : (P.disturbed line).receive (s, some 0) = (.ofBytes line, (s, none)) := rfl
      refine ⟨1, Nat.le_refl 1, none, ?_⟩
      rw [Peer.frame_succ, next, unheard]
      exact Peer.frame_passed (bound + 1) s
    | some (wait + 1) =>
      have next : (P.disturbed line).receive (s, some (wait + 1)) =
          ((P.receive s).1, ((P.receive s).2, some wait)) := rfl
      obtain ⟨more, small, wait', frame⟩ := ih (P.receive s).2 (some wait)
      cases spoken : (P.receive s).1.said? with
      | some word =>
        refine ⟨0, Nat.zero_le 1, some wait, ?_⟩
        rw [Nat.add_zero, Peer.frame_succ, next, Peer.frame_succ, spoken]
      | none =>
        refine ⟨more, small, wait', ?_⟩
        rw [Nat.add_right_comm, Peer.frame_succ, next, Peer.frame_succ, spoken]
        exact frame

/-- With a line more that says nothing, a peer follows itself. -/
theorem Peer.disturbed_follows (unheard : (Arrival.ofBytes line).said? = none) (bound : Nat) :
    (P.disturbed line).Follows P (fun s t => t.1 = s) bound (bound + 1) where
  frame := by
    rintro _ ⟨s, wait⟩ rfl word s' read heard
    obtain ⟨more, small, wait', frame⟩ := Peer.frame_disturbed (P := P) unheard bound s wait
    rw [read] at frame
    exact ⟨_, Peer.frame_mono (Nat.add_le_add_left small bound) frame heard, rfl⟩
  send := by
    rintro _ ⟨s, wait⟩ rfl frame refusal s' sent
    have same : (P.disturbed line).send (s, wait) frame = ((P.send s frame).1, ((P.send s frame).2, wait)) := rfl
    exact ⟨(s', wait), by rw [same, sent], rfl⟩

/-- A peer follows itself with a line more that says nothing. -/
theorem Peer.follows_disturbed (unheard : (Arrival.ofBytes line).said? = none) (bound : Nat) :
    P.Follows (P.disturbed line) (fun t s => t.1 = s) bound bound where
  frame := by
    rintro ⟨s, wait⟩ _ rfl word ⟨s', wait'⟩ read heard
    obtain ⟨more, small, wait', frame⟩ := Peer.frame_disturbed (P := P) unheard bound s wait
    have longer := Peer.frame_mono (Nat.le_add_right bound more) read heard
    rw [longer] at frame
    obtain ⟨said, left, -⟩ := by simpa using frame
    exact ⟨_, Prod.ext said.symm left.symm, rfl⟩
  send := by
    rintro ⟨s, wait⟩ _ rfl frame refusal ⟨s', wait'⟩ sent
    have same : (P.disturbed line).send (s, wait) frame = ((P.send s frame).1, ((P.send s frame).2, wait)) := rfl
    rw [same] at sent
    obtain ⟨refused, left, -⟩ := by simpa using sent
    exact ⟨_, Prod.ext refused left, rfl⟩

/-- A request on a peer comes to this in the end. -/
def Exchange.EndsWith (P : Peer σ) (id : Nat) (request : Request) (s : σ) (x : Executed) (e : Exchange)
    (s' : σ) : Prop := ∃ bound, Exchange.execute P bound id request s = (some x, e, s')

variable {id : Nat} {request : Request} {x : Executed} {e : Exchange} {s' : σ}

/-- A request comes to the same, with or without a line that says nothing. -/
theorem Exchange.endsWith_disturbed_iff (unheard : (Arrival.ofBytes line).said? = none) (wait : Option Nat) :
    (∃ wait', EndsWith (P.disturbed line) id request (s, wait) x e (s', wait')) ↔
      EndsWith P id request s x e s' := by
  constructor
  · rintro ⟨wait', bound, comes⟩
    obtain ⟨_, same, rfl⟩ := (Peer.follows_disturbed unheard bound).execute (Nat.le_refl bound) rfl comes
    exact ⟨bound, same⟩
  · rintro ⟨bound, comes⟩
    have here : (s, wait).1 = s := rfl
    obtain ⟨⟨_, wait'⟩, same, rfl⟩ :=
      (Peer.disturbed_follows unheard bound).execute (Nat.le_succ bound) here comes
    exact ⟨wait', bound + 1, same⟩

/-- A line that is not UTF-8 ends the session that it falls into. -/
theorem Exchange.endsWith_broken (broken : ¬ IsUtf8 line) (sent : (P.send s (.exec id request.source)).1 = none) :
    ∃ reason e, EndsWith (P.disturbed line) id request (s, some 0) (.failed (.io reason)) e
      ((P.send s (.exec id request.source)).2, none) := by
  obtain ⟨reason, failed⟩ := ofBytes_of_broken broken
  refine ⟨reason, ⟨id, request.cursor⟩, 1, ?_⟩
  have sending : (P.disturbed line).send (s, some 0) (.exec id request.source) =
      (none, ((P.send s (.exec id request.source)).2, some 0)) := by rw [← sent]; rfl
  have next : ∀ t, (P.disturbed line).receive (t, some 0) = (.failed reason, (t, none)) := fun t => by
    rw [← failed]
    rfl
  rw [Exchange.execute, sending]
  dsimp only
  rw [Exchange.converse, Peer.frame_succ, next]
  rfl

end Disturbance

/-! ## Noise -/

/-- A line that is no frame changes nothing of what is read from a stand-in one after another, wherever it
stands, and nothing of what a request on any peer comes to, whenever it comes, if it is UTF-8, and only then:
any other line is read as a failure of the pipe, and the request that it falls into fails with it. -/
theorem noise_unheard_iff {line : List UInt8} (noise : DriverFrame.ofBytes? line = none) :
    (∀ (s : StandIn) (before behind : List UInt8) (bound : Nat), s.Between before line behind →
      s.outbox.length < bound →
        ((∀ n, StandIn.peer.frames bound n s =
            StandIn.peer.frames bound n { s with outbox := before ++ behind }) ↔ IsUtf8 line)) ∧
    ∀ (σ : Type) (P : Peer σ) (id : Nat) (request : Request) (s : σ),
      (IsUtf8 line → ∀ wait x e s',
        (∃ wait', Exchange.EndsWith (P.disturbed line) id request (s, wait) x e (s', wait')) ↔
          Exchange.EndsWith P id request s x e s') ∧
      (¬ IsUtf8 line → (P.send s (.exec id request.source)).1 = none →
        ∃ reason e, Exchange.EndsWith (P.disturbed line) id request (s, some 0) (.failed (.io reason)) e
          ((P.send s (.exec id request.source)).2, none)) := by
  have unheard_iff : (Arrival.ofBytes line).said? = none ↔ IsUtf8 line :=
    said?_ofBytes_eq_none_iff.trans (and_iff_right noise)
  refine ⟨fun s before behind bound between room => ?_, fun σ P id request s => ⟨?_, ?_⟩⟩
  · exact (between.frames_eq_iff room).trans unheard_iff
  · intro utf8 wait x e s'
    exact Exchange.endsWith_disturbed_iff (unheard_iff.mpr utf8) wait
  · intro broken sent
    exact Exchange.endsWith_broken broken sent

/-- The line of a trace in front of an answer. -/
theorem noise_unheard_traceback :
    let noise := Utf8.encode "Traceback\n"
    let answer := Utf8.encode "\x7b\"type\": \"done\", \"id\": 1, \"output\": \"1\\n\"\x7d\n"
    let s : StandIn := ⟨[], [], noise ++ answer, [], false, true⟩
    let alone : StandIn := { s with outbox := answer }
    let request : Request := ⟨"print(1)", .python, []⟩
    DriverFrame.ofBytes? noise = none ∧ s.Between [] noise answer ∧ IsUtf8 noise ∧
      (∀ n, StandIn.peer.frames 100 n s = StandIn.peer.frames 100 n alone) ∧
      ∃ wait e s', Exchange.EndsWith (StandIn.peer.disturbed noise) 1 request (alone, some 0)
        (.answered "1\n" none) e (s', wait) := by
  intro noise answer s alone request
  have noFrame : DriverFrame.ofBytes? noise = none := by decide +kernel
  have utf8 : IsUtf8 noise := ⟨"Traceback\n".toList, by decide +kernel⟩
  have between : s.Between [] noise answer :=
    ⟨rfl, rfl, .inl ⟨Utf8.encode "Traceback", by decide +kernel, by decide +kernel⟩⟩
  obtain ⟨reads, sessions⟩ := noise_unheard_iff noFrame
  have answered : (Exchange.execute StandIn.peer 2 1 request alone).1 = some (.answered "1\n" none) := by
    decide +kernel
  have same := (reads s [] answer 100 between (by decide +kernel)).mpr utf8
  obtain ⟨wait, ends⟩ := ((sessions StandIn StandIn.peer 1 request alone).1 utf8 (some 0) _ _ _).mpr
    ⟨2, Prod.ext answered rfl⟩
  exact ⟨noFrame, between, utf8, same, wait, _, _, ends⟩

/-- A byte that is not UTF-8 is read as a failure of the pipe, in front of an answer that is there; the
request fails, and without the byte it has the answer. -/
theorem undecodable_line_heard :
    let noise : List UInt8 := [0xFF, 10]
    let answer := Utf8.encode "\x7b\"type\": \"done\", \"id\": 1, \"output\": \"1\\n\"\x7d\n"
    let s : StandIn := ⟨[], [], noise ++ answer, [], false, true⟩
    let alone : StandIn := { s with outbox := answer }
    let request : Request := ⟨"print(1)", .python, []⟩
    let reason := "invalid utf-8 sequence of 1 bytes from index 0"
    DriverFrame.ofBytes? noise = none ∧
      StandIn.peer.frames 100 1 s = [.inr (.failed reason)] ∧
      StandIn.peer.frames 100 1 alone = [.inl (.done 1 "1\n")] ∧
      (Exchange.execute StandIn.peer 100 1 request s).1 = some (.failed (.io reason)) ∧
      (Exchange.execute StandIn.peer 100 1 request alone).1 = some (.answered "1\n" none) := by
  decide +kernel

end Snippet.Wire
