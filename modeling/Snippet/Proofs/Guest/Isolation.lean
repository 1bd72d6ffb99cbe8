import Mathlib.Data.List.Nodup
import Snippet.Proofs.Guest.Phase

/-!
# Requests that were given up do not show

`Link.isolated`: whatever a host and a worker do, and however many requests are given up on the way,
a request that is answered is answered with what its own source comes to when it is run once by
itself, each of its pulls answered with the next of its own input lines, and the worker has said
nothing else about it.

The invariant behind it is `Link.Sound`. Requests that the worker has not taken up wait in two
queues, its own and the pipe's, with increasing numbers; the one that it works on has a smaller
number, so that the request which holds the pipe is the last of all. Where that one stands is its
`Phase`.
-/

namespace Snippet.Guest

open Snippet.Text Snippet.Wire

variable {μ : Type} {P : Programs μ}

namespace Link

/-- The requests that the worker has not taken up, given those in its own queue. -/
def waiting (l : Link μ) (pend : List (Nat × String)) : List (Nat × String) :=
  pend ++ l.toWorker.filterMap execOf?

/-- The request of that number waits to be taken up. -/
def Queued (l : Link μ) (pend : List (Nat × String)) (k : Nat) : Prop :=
  k ∈ (l.waiting pend).map Prod.fst

/-- A source may be run in this world: runs of sent requests, one after another, have led to it. -/
def Begins (P : Programs μ) (first : μ) (l : Link μ) (world : μ) : Prop :=
  ∃ said, Runs P l.asked first (.idle world) said

/-- The request has been answered with what its source comes to. -/
structure Settled (P : Programs μ) (first : μ) (l : Link μ) (pend : List (Nat × String)) (k : Nat)
    (answer : String × Option ErrorDetail) : Prop where
  below : k < l.nextId
  idle : ¬ l.worker.stage.Busy k
  begun : ¬ l.Queued pend k
  own : ∃ r asked last world, (k, r) ∈ l.asked ∧
    Conducted P (l.Begins P first) k r (.idle world) asked last ∧
    l.said.filter (Notice.regards k) = asked ++ [last] ∧ last.answer? = some answer

/-- What holds at all times, given the requests in the worker's own queue. -/
structure Sound (P : Programs μ) (first : μ) (l : Link μ) (pend : List (Nat × String)) : Prop where
  pending : l.worker.pending = pend.map request
  increasing : ((l.waiting pend).map Prod.fst).Pairwise (· < ·)
  sent : ∀ x ∈ l.waiting pend, ∃ r, (x.1, r) ∈ l.asked ∧ r.source = x.2
  numbered : (l.asked.map Prod.fst).Pairwise (· < ·)
  below : ∀ a ∈ l.asked, a.1 < l.nextId
  busy : ∀ e q gathered resume, l.worker.stage = .asking e q gathered resume →
    ∃ k, e.id = .ofNat k ∧ k < l.nextId ∧ ∀ x ∈ l.waiting pend, k < x.1
  replies : ∀ k value, .inputReply k value ∈ l.toWorker → k < l.nextId
  named : ∀ m ∈ l.said, ∃ k, m.request? = some (.ofNat k) ∧ k < l.nextId ∧ ¬ l.Queued pend k
  unread : ∀ m ∈ l.toHost, m ∈ l.said
  history : Runs P l.asked first l.worker.stage l.said
  live : ∀ e, l.current = some e → l.nextId = e.id + 1 ∧
    ∃ r, (e.id, r) ∈ l.asked ∧ e.cursor.lines = r.stdin ∧
      Phase P (l.Begins P first) e.id r l.worker.stage (l.said.filter (Notice.regards e.id))
        (l.toHost.filter (Notice.regards e.id)) (l.toWorker.filter (repliesTo e.id)) (l.Queued pend e.id)
        e.cursor.position
  answered : ∀ a ∈ l.answered, Settled P first l pend a.1 a.2

variable {first : μ} {l : Link μ} {pend : List (Nat × String)}

/-! ## What the worker does -/

/-- The worker has done something: it has taken some of what waits, has said something about it, and
has left everything else alone. -/
theorem Sound.advance (sound : l.Sound P first pend) {stage : Stage μ} {notices : List Notice}
    {pend' : List (Nat × String)} {rest : List HostFrame}
    (queue : (pend' ++ rest.filterMap execOf?).Sublist (l.waiting pend))
    (replies : ∀ frame ∈ rest, frame ∈ l.toWorker)
    (history : Runs P l.asked first stage (l.said ++ notices))
    (busy : ∀ e q gathered resume, stage = .asking e q gathered resume →
      ∃ k, e.id = .ofNat k ∧ k < l.nextId ∧ ∀ x ∈ pend' ++ rest.filterMap execOf?, k < x.1)
    (named : ∀ m ∈ notices, ∃ k, m.request? = some (.ofNat k) ∧ k < l.nextId ∧
      k ∉ (pend' ++ rest.filterMap execOf?).map Prod.fst)
    (still : ∀ k, ¬ l.worker.stage.Busy k → ¬ l.Queued pend k →
      ¬ stage.Busy k ∧ notices.filter (Notice.regards k) = [])
    (live : ∀ e r, l.current = some e → l.nextId = e.id + 1 → (e.id, r) ∈ l.asked →
      Phase P (l.Begins P first) e.id r l.worker.stage (l.said.filter (Notice.regards e.id))
        (l.toHost.filter (Notice.regards e.id)) (l.toWorker.filter (repliesTo e.id)) (l.Queued pend e.id)
        e.cursor.position →
      Phase P (l.Begins P first) e.id r stage
        (l.said.filter (Notice.regards e.id) ++ notices.filter (Notice.regards e.id))
        (l.toHost.filter (Notice.regards e.id) ++ notices.filter (Notice.regards e.id))
        (rest.filter (repliesTo e.id)) (e.id ∈ (pend' ++ rest.filterMap execOf?).map Prod.fst)
        e.cursor.position) :
    Sound P first ({ l with toWorker := rest }.speak (⟨stage, pend'.map request⟩, notices)) pend' where
  pending := rfl
  increasing := sound.increasing.sublist (queue.map _)
  sent x mem := sound.sent x (queue.subset mem)
  numbered := sound.numbered
  below := sound.below
  busy := busy
  replies k value mem := sound.replies k value (replies _ mem)
  named m mem := by
    rcases List.mem_append.mp mem with before | new
    · obtain ⟨k, about, below, begun⟩ := sound.named m before
      exact ⟨k, about, below, fun queued => begun ((queue.map _).subset queued)⟩
    · exact named m new
  unread m mem := by
    rcases List.mem_append.mp mem with before | new
    · exact List.mem_append.mpr (Or.inl (sound.unread m before))
    · exact List.mem_append.mpr (Or.inr new)
  history := history
  live e holds := by
    obtain ⟨next, r, asked, lines, phase⟩ := sound.live e holds
    refine ⟨next, r, asked, lines, ?_⟩
    have after := live e r holds next asked phase
    rw [← List.filter_append, ← List.filter_append] at after
    exact after
  answered a mem := by
    obtain ⟨below, idle, begun, r, asked, last, world, own, conducted, spoken, answer⟩ :=
      sound.answered a mem
    obtain ⟨idle', nothing⟩ := still a.1 idle begun
    refine ⟨below, idle', fun queued => begun ((queue.map _).subset queued), r, asked, last, world, own,
      conducted, ?_, answer⟩
    have spoken' : (l.said ++ notices).filter (Notice.regards a.1) = asked ++ [last] := by
      rw [List.filter_append, nothing, List.append_nil, spoken]
    exact spoken'

/-- A turn of a request that was busy or waited leaves all others alone. -/
theorem Sound.turn (sound : l.Sound P first pend) {k : Nat} {stage : Stage μ}
    {notices : List Notice}
    (pend' : List (Nat × String)) (rest : List HostFrame) (turn : Turn (.ofNat k) stage notices)
    (below : k < l.nextId) (active : l.worker.stage.Busy k ∨ l.Queued pend k)
    (alone : ∀ n, l.worker.stage.Busy n → n = k)
    (queue : (pend' ++ rest.filterMap execOf?).Sublist (l.waiting pend))
    (later : ∀ x ∈ pend' ++ rest.filterMap execOf?, k < x.1)
    (others : ∀ n, n ≠ k → l.Queued pend n → n ∈ (pend' ++ rest.filterMap execOf?).map Prod.fst)
    (replies : ∀ frame ∈ rest, frame ∈ l.toWorker)
    (history : Runs P l.asked first stage (l.said ++ notices))
    (same : ∀ n, n ≠ k → rest.filter (repliesTo n) = l.toWorker.filter (repliesTo n))
    (own : ∀ e r, l.current = some e → l.nextId = e.id + 1 → e.id = k → (k, r) ∈ l.asked →
      ∀ queued position, ¬ queued →
      Phase P (l.Begins P first) k r l.worker.stage (l.said.filter (Notice.regards k))
        (l.toHost.filter (Notice.regards k)) (l.toWorker.filter (repliesTo k)) (l.Queued pend k) position →
      Phase P (l.Begins P first) k r stage (l.said.filter (Notice.regards k) ++ notices)
        (l.toHost.filter (Notice.regards k) ++ notices) (rest.filter (repliesTo k)) queued position) :
    Sound P first ({ l with toWorker := rest }.speak (⟨stage, pend'.map request⟩, notices)) pend' := by
  have begun : k ∉ (pend' ++ rest.filterMap execOf?).map Prod.fst := by
    intro mem
    obtain ⟨x, mem, eq⟩ := List.mem_map.mp mem
    have less := later x mem
    omega
  refine sound.advance queue replies history ?_ ?_ ?_ ?_
  · intro e q gathered resume waits
    cases turn with
    | asks mine =>
      injection waits with eq
      exact ⟨k, eq ▸ mine, below, later⟩
    | ends => cases waits
    | gone => cases waits
    | lost => cases waits
  · intro m mem
    exact ⟨k, turn.about mem, below, begun⟩
  · intro n idle gone
    have other : n ≠ k := by
      rintro rfl
      rcases active with busy | queued
      · exact idle busy
      · exact gone queued
    exact ⟨fun busy => other (turn.busy busy), turn.filter_other other⟩
  · intro e r holds next asked phase
    by_cases eq : e.id = k
    · rw [eq] at asked phase ⊢
      rw [turn.filter_self]
      exact own e r holds next eq asked _ _ begun phase
    · rw [turn.filter_other eq, List.append_nil, List.append_nil, same e.id eq]
      refine phase.of_stage ⟨fun mem => (queue.map _).subset mem, others e.id eq⟩ ?_ ?_
      · exact fun busy => absurd (alone _ busy) eq
      · exact fun busy => absurd (turn.busy busy) eq

/-- The worker's own queue is the first part of what waits. -/
theorem Sound.worker_eq (sound : l.Sound P first pend) :
    l.worker = ⟨l.worker.stage, pend.map request⟩ := by
  rw [← sound.pending]

theorem Sound.lt_nextId (sound : l.Sound P first pend) {x : Nat × String}
    (mem : x ∈ l.waiting pend) :
    x.1 < l.nextId := by
  obtain ⟨r, asked, _⟩ := sound.sent x mem
  exact sound.below _ asked

/-- There is one request of each number. -/
theorem Sound.unique (sound : l.Sound P first pend) {k : Nat} {r r' : Request}
    (one : (k, r) ∈ l.asked)
    (other : (k, r') ∈ l.asked) : r = r' := by
  have nodup : (l.asked.map Prod.fst).Nodup := sound.numbered.imp Nat.ne_of_lt
  exact congrArg Prod.snd (List.inj_on_of_nodup_map nodup one other rfl)

theorem speak_speak (l : Link μ) (w w' : Worker μ) (one more : List Notice) :
    (l.speak (w, one)).speak (w', more) = l.speak (w', one ++ more) := by
  simp only [speak, List.append_assoc, List.length_append, Nat.add_assoc]

theorem speak_nothing (l : Link μ) : l.speak (l.worker, []) = l := by
  simp only [speak, List.append_nil, List.length_nil, Nat.add_zero]

/-- The worker takes up the first of the requests that wait. -/
theorem Sound.takeOne {x : Nat × String} {world : μ} (sound : l.Sound P first (x :: pend))
    (idle : l.worker.stage = .idle world) :
    Sound P first (l.speak (⟨(conduct P world x.1 x.2 []).1, pend.map request⟩,
      (conduct P world x.1 x.2 []).2)) pend := by
  have turn : Turn (.ofNat x.1) (conduct P world x.1 x.2 []).1 (conduct P world x.1 x.2 []).2 :=
    proceed_turn (.fresh (.ofNat x.1)) (P (pts x.2) world)
  have waiting : l.waiting (x :: pend) = x :: (pend ++ l.toWorker.filterMap execOf?) := rfl
  have quiet : ∀ n, ¬ l.worker.stage.Busy n := by
    rw [idle]
    exact fun n => id
  have increasing := sound.increasing
  rw [waiting, List.map_cons, List.pairwise_cons] at increasing
  have mem : x ∈ l.waiting (x :: pend) := List.mem_cons_self ..
  have past := sound.history
  rw [idle] at past
  obtain ⟨request, sent, source⟩ := sound.sent x mem
  have history := past.next sent []
  rw [source] at history
  refine sound.turn pend l.toWorker turn (sound.lt_nextId mem) (Or.inr (List.mem_map_of_mem mem))
    (fun n busy => absurd busy (quiet n)) (List.sublist_cons_self _ _) ?_ ?_ (fun _ => id) history
    (fun _ _ => rfl) ?_
  · exact fun y later => increasing.1 y.1 (List.mem_map_of_mem later)
  · intro n other queued
    rcases List.mem_cons.mp queued with eq | later
    · exact absurd eq other
    · exact later
  · intro e r holds next eq asked queued position begun phase
    rw [← sound.unique asked sent] at source
    obtain ⟨said, unread, replies, position⟩ := phase.of_queued (List.mem_map_of_mem mem) (quiet x.1)
    rw [said, unread, replies, position]
    have begins : l.Begins P first world := ⟨_, past⟩
    have conducted : conduct P world x.1 r.source (pulls r.stdin ([] : List Notice).length) =
        ((conduct P world x.1 x.2 []).1, [] ++ (conduct P world x.1 x.2 []).2) := by
      rw [source]
      rfl
    have start := Phase.of_turn begun begins conducted nofun turn
    rw [List.length_nil, Nat.zero_min] at start
    exact start

/-- The worker takes up requests until one of them waits for input, or none is left. -/
theorem Sound.takeUp (sound : l.Sound P first pend) :
    ∃ pend', Sound P first (l.speak (Worker.takeUp P (pend.map request) l.worker.stage)) pend' := by
  induction pend generalizing l with
  | nil =>
    refine ⟨[], ?_⟩
    rw [List.map_nil, Worker.takeUp_nil]
    have worker : l.worker = ⟨l.worker.stage, []⟩ := sound.worker_eq
    rw [← worker, speak_nothing]
    exact sound
  | cons x pend ih =>
    by_cases idle : ∃ world, l.worker.stage = .idle world
    · obtain ⟨world, idle⟩ := idle
      obtain ⟨pend', later⟩ := ih (sound.takeOne idle)
      refine ⟨pend', ?_⟩
      rw [idle, List.map_cons, Worker.takeUp_cons]
      rw [speak_speak] at later
      exact later
    · refine ⟨x :: pend, ?_⟩
      rw [Worker.takeUp_of_busy P fun world eq => idle ⟨world, eq⟩, ← sound.worker_eq, speak_nothing]
      exact sound

/-- A frame that the worker takes without a word leaves everything else as it is. -/
theorem Sound.drop (sound : l.Sound P first pend) {frame : HostFrame} {rest : List HostFrame}
    (next : l.toWorker = frame :: rest)
    (quiet : ∀ n, repliesTo n frame = true → ¬ l.worker.stage.Busy n)
    (kept : execOf? frame = none ∨ ¬ l.worker.stage.Alive) :
    Sound P first ({ l with toWorker := rest }.speak (l.worker, [])) pend := by
  have queue : (pend ++ rest.filterMap execOf?).Sublist (l.waiting pend) := by
    rw [waiting, next]
    exact List.Sublist.append_left ((List.sublist_cons_self frame rest).filterMap execOf?) pend
  rw [sound.worker_eq]
  refine sound.advance queue ?_ (by rw [List.append_nil]; exact sound.history) ?_ nofun ?_ ?_
  · intro frame mem
    rw [next]
    exact List.mem_cons_of_mem _ mem
  · intro e q gathered resume eq
    obtain ⟨k, own, below, later⟩ := sound.busy e q gathered resume eq
    exact ⟨k, own, below, fun x mem => later x (queue.subset mem)⟩
  · exact fun k idle _ => ⟨idle, rfl⟩
  · intro e r holds _ asked phase
    have replies : rest.filter (repliesTo e.id) = l.toWorker.filter (repliesTo e.id) := by
      rw [next] at phase ⊢
      by_cases own : repliesTo e.id frame = true
      · rw [List.filter_cons_of_pos own] at phase
        exact absurd phase.busy (quiet _ own)
      · rw [List.filter_cons_of_neg own]
    rw [List.filter_nil, List.append_nil, List.append_nil, replies]
    by_cases taken : l.Queued pend e.id ∧ e.id ∉ (pend ++ rest.filterMap execOf?).map Prod.fst
    · obtain ⟨queued, taken⟩ := taken
      have dead : ¬ l.worker.stage.Alive := by
        refine kept.resolve_left fun other => taken ?_
        rw [Queued, waiting, next, List.filterMap_cons_none other] at queued
        exact queued
      have idle : ¬ l.worker.stage.Busy e.id := fun busy => dead busy.alive
      obtain ⟨said, unread, none, start⟩ := phase.of_queued queued idle
      rw [said, unread, none, start]
      exact .lost taken
    · refine phase.of_stage ⟨fun mem => (queue.map _).subset mem, fun queued => ?_⟩ (fun _ => rfl) id
      exact Classical.byContradiction fun gone => taken ⟨queued, gone⟩

/-- A request comes while the worker has nothing to do. -/
theorem Sound.hear_exec_idle (sound : l.Sound P first pend) {k : Nat} {source : String}
    {rest : List HostFrame} (next : l.toWorker = .exec k source :: rest) {world : μ}
    (stage : l.worker.stage = .idle world) :
    ∃ pend', Sound P first ({ l with toWorker := rest }.speak
      (l.worker.hearLine P (HostFrame.exec k source).line)) pend' := by
  have queue : (pend ++ [(k, source)]) ++ rest.filterMap execOf? = l.waiting pend := by
    rw [waiting, next, List.append_assoc]
    rfl
  have past := sound.history
  rw [stage, ← List.append_nil l.said] at past
  have enqueued : Sound P first ({ l with toWorker := rest }.speak
      (⟨.idle world, (pend ++ [(k, source)]).map request⟩, [])) (pend ++ [(k, source)]) := by
    refine sound.advance (queue ▸ List.Sublist.refl _) ?_ past nofun nofun ?_ ?_
    · exact fun f mem => next ▸ List.mem_cons_of_mem _ mem
    · exact fun _ _ _ => ⟨id, rfl⟩
    · intro e r holds _ asked phase
      rw [queue, List.filter_nil, List.append_nil, List.append_nil]
      rw [next, stage] at phase
      exact phase
  obtain ⟨pend', later⟩ := enqueued.takeUp
  refine ⟨pend', ?_⟩
  rw [sound.worker_eq, stage, Worker.hearLine_exec_idle]
  rw [speak_speak, List.map_append] at later
  exact later

/-- A request comes while a program waits for input: the program goes on without. -/
theorem Sound.hear_exec_asking (sound : l.Sound P first pend) {k : Nat} {source : String}
    {rest : List HostFrame} (next : l.toWorker = .exec k source :: rest) {e : Errand} {q : Question}
    {gathered : Points} {resume : Answer → Play (Fate × μ)}
    (stage : l.worker.stage = .asking e q gathered resume) :
    ∃ pend', Sound P first ({ l with toWorker := rest }.speak
      (l.worker.hearLine P (HostFrame.exec k source).line)) pend' := by
  obtain ⟨j, own, below, behind⟩ := sound.busy e q gathered resume stage
  have busy : l.worker.stage.Busy j := by
    rw [stage]
    exact own
  have queue : (pend ++ [(k, source)]) ++ rest.filterMap execOf? = l.waiting pend := by
    rw [waiting, next, List.append_assoc]
    rfl
  have mem : (k, source) ∈ l.waiting pend := by
    rw [← queue]
    simp
  have turn := answer_turn e q gathered resume (valueOf none)
  have history := sound.history.take (valueOf none)
  rw [own] at turn
  rw [stage] at history
  have turned := sound.turn (pend ++ [(k, source)]) rest turn below (Or.inl busy)
    (fun n other => other.unique busy) (queue ▸ List.Sublist.refl _) (by rw [queue]; exact behind)
    (fun n _ queued => by rw [queue]; exact queued) (fun f mem => next ▸ List.mem_cons_of_mem _ mem)
    history (fun n _ => by rw [next]; rfl) (by
      -- the request that holds the pipe is the last one, so it is not the one that has been busy
      intro f r holds last eq asked
      have less := behind _ mem
      have bound := sound.lt_nextId mem
      omega)
  obtain ⟨pend', later⟩ := turned.takeUp
  refine ⟨pend', ?_⟩
  rw [sound.worker_eq, stage, Worker.hearLine_exec_asking]
  rw [speak_speak, List.map_append] at later
  exact later

/-- The reply comes that a program waits for. -/
theorem Sound.hear_reply (sound : l.Sound P first pend) {k : Nat} {value : Option String}
    {rest : List HostFrame} (next : l.toWorker = .inputReply k value :: rest) {e : Errand}
    {q : Question}
    {gathered : Points} {resume : Answer → Play (Fate × μ)}
    (stage : l.worker.stage = .asking e q gathered resume) (own : e.id = .ofNat k) :
    ∃ pend', Sound P first ({ l with toWorker := rest }.speak
      (l.worker.hearLine P (HostFrame.inputReply k value).line)) pend' := by
  have busy : l.worker.stage.Busy k := by
    rw [stage]
    exact own
  obtain ⟨j, own', below, behind⟩ := sound.busy e q gathered resume stage
  obtain rfl : j = k := ofNat_inj (own'.symm.trans own)
  have queue : pend ++ rest.filterMap execOf? = l.waiting pend := by
    rw [waiting, next]
    rfl
  have turn := answer_turn e q gathered resume (valueOf value)
  have history := sound.history.take (valueOf value)
  rw [own] at turn
  rw [stage] at history
  have turned := sound.turn pend rest turn below (Or.inl busy) (fun n other => other.unique busy)
    (queue ▸ List.Sublist.refl _) (by rw [queue]; exact behind)
    (fun n _ queued => by rw [queue]; exact queued) (fun f mem => next ▸ List.mem_cons_of_mem _ mem)
    history
    (fun n other => by
      rw [next, List.filter_cons_of_neg]
      rw [repliesTo, beq_iff_eq]
      exact other.symm)
    (by
      intro f r holds last eq asked queued position begun phase
      have reply : repliesTo j (.inputReply j value) = true := beq_self_eq_true j
      rw [next, List.filter_cons_of_pos reply, stage] at phase
      have alone : ¬ l.Queued pend j := by
        intro mem
        obtain ⟨x, mem, eq⟩ := List.mem_map.mp mem
        have less := behind x mem
        omega
      rw [propext (iff_of_false alone begun)] at phase
      exact phase.of_reply begun own)
  obtain ⟨pend', later⟩ := turned.takeUp
  refine ⟨pend', ?_⟩
  rw [sound.worker_eq, stage, Worker.hearLine_reply_asking P own, if_pos rfl]
  rw [speak_speak] at later
  exact later

/-- The worker takes the next frame. -/
theorem Sound.hear (sound : l.Sound P first pend) {frame : HostFrame} {rest : List HostFrame}
    (next : l.toWorker = frame :: rest) :
    ∃ pend', Sound P first ({ l with toWorker := rest }.speak (l.worker.hearLine P frame.line)) pend' := by
  by_cases alive : l.worker.stage.Alive
  · cases stage : l.worker.stage with
    | gone =>
      rw [stage] at alive
      exact alive.elim
    | lost =>
      rw [stage] at alive
      exact alive.elim
    | idle world =>
      cases frame with
      | exec k source => exact sound.hear_exec_idle next stage
      | inputReply k value =>
        refine ⟨pend, ?_⟩
        rw [sound.worker_eq, stage, Worker.hearLine_reply_idle, ← stage, ← sound.worker_eq]
        exact sound.drop next (fun n _ busy => by rw [stage] at busy; exact busy) (Or.inl rfl)
    | asking e q gathered resume =>
      cases frame with
      | exec k source => exact sound.hear_exec_asking next stage
      | inputReply k value =>
        obtain ⟨j, own, _, _⟩ := sound.busy e q gathered resume stage
        by_cases same : k = j
        · exact sound.hear_reply next stage (same ▸ own)
        · have busy : l.worker.stage.Busy j := by
            rw [stage]
            exact own
          refine ⟨pend, ?_⟩
          rw [sound.worker_eq, stage, Worker.hearLine_reply_asking P own, if_neg same, ← stage,
            ← sound.worker_eq]
          refine sound.drop next (fun n replies other => same ?_) (Or.inl rfl)
          exact (beq_iff_eq.mp replies).trans (other.unique busy)
  · refine ⟨pend, ?_⟩
    rw [Worker.hearLine_dead P alive]
    exact sound.drop next (fun n _ busy => alive busy.alive) (Or.inr alive)

/-! ## What the host does -/

/-- A request that has been answered stays so when another one takes the pipe. -/
theorem Settled.mono {k : Nat} {answer : String × Option ErrorDetail}
    (settled : Settled P first l pend k answer)
    {l' : Link μ} (below : l.nextId ≤ l'.nextId) (stage : l'.worker.stage = l.worker.stage)
    (said : l'.said = l.said) (asked : ∀ a ∈ l.asked, a ∈ l'.asked)
    (queued : l'.Queued pend k → l.Queued pend k) : Settled P first l' pend k answer := by
  obtain ⟨less, idle, begun, r, questions, last, world, own, conducted, spoken, answer⟩ := settled
  have begins : ∀ world, l.Begins P first world → l'.Begins P first world := fun _ ⟨said, runs⟩ =>
    ⟨said, runs.mono asked⟩
  refine ⟨Nat.lt_of_lt_of_le less below, ?_, fun waits => begun (queued waits), r, questions, last, world,
    asked _ own, conducted.mono begins, ?_, answer⟩
  · rw [stage]
    exact idle
  · rw [said]
    exact spoken

theorem Sound.write (sound : l.Sound P first pend) :
    Sound P first { l with unwritten := l.unwritten - 1 } pend :=
  { sound with
    answered := fun a mem => (sound.answered a mem).mono (Nat.le_refl _) rfl rfl (fun _ => id) id }

theorem Sound.leave (sound : l.Sound P first pend) :
    Sound P first { l with current := none } pend :=
  { sound with
    live := nofun
    answered := fun a mem => (sound.answered a mem).mono (Nat.le_refl _) rfl rfl (fun _ => id) id }

/-- A number is used up without a request. -/
theorem Sound.skip (sound : l.Sound P first pend) (free : l.current = none) :
    Sound P first { l with nextId := l.nextId + 1 } pend := by
  refine
    { sound with
      below := fun a mem => Nat.lt_succ_of_lt (sound.below a mem)
      busy := ?_
      replies := fun k value mem => Nat.lt_succ_of_lt (sound.replies k value mem)
      named := ?_
      live := ?_
      answered := fun a mem => (sound.answered a mem).mono (Nat.le_succ _) rfl rfl (fun _ => id) id }
  · intro e q gathered resume stage
    obtain ⟨k, own, below, later⟩ := sound.busy e q gathered resume stage
    exact ⟨k, own, Nat.lt_succ_of_lt below, later⟩
  · intro m mem
    obtain ⟨k, about, below, begun⟩ := sound.named m mem
    exact ⟨k, about, Nat.lt_succ_of_lt below, begun⟩
  · intro e holds
    have none : l.current = some e := holds
    rw [free] at none
    cases none

/-- Nothing has been said about a request that is still to come. -/
theorem Sound.said_new (sound : l.Sound P first pend) :
    l.said.filter (Notice.regards l.nextId) = [] := by
  refine List.filter_eq_nil_iff.mpr fun m mem => ?_
  obtain ⟨k, about, below, _⟩ := sound.named m mem
  rw [Notice.regards_of_request? about, beq_iff_eq]
  exact Nat.ne_of_lt below

theorem Sound.toHost_new (sound : l.Sound P first pend) :
    l.toHost.filter (Notice.regards l.nextId) = [] :=
  List.filter_eq_nil_iff.mpr fun m mem =>
    List.filter_eq_nil_iff.mp sound.said_new m (sound.unread m mem)

theorem Sound.toWorker_new (sound : l.Sound P first pend) :
    l.toWorker.filter (repliesTo l.nextId) = [] := by
  refine List.filter_eq_nil_iff.mpr fun frame mem => ?_
  cases frame with
  | exec => exact Bool.false_ne_true
  | inputReply k value =>
    have less := sound.replies k value mem
    rw [repliesTo, beq_iff_eq]
    exact Nat.ne_of_lt less

/-- A request takes the pipe. -/
theorem Sound.ask (sound : l.Sound P first pend) (r : Request) :
    Sound P first (l.ask r true) pend := by
  have waiting : (l.ask r true).waiting pend = l.waiting pend ++ [(l.nextId, r.source)] := by
    simp [Link.ask, Link.waiting, List.filterMap_append, execOf?]
  have waits : (l.ask r true).Queued pend l.nextId := by
    rw [Queued, waiting, List.map_append]
    exact List.mem_append.mpr (Or.inr (List.mem_singleton.mpr rfl))
  have queued : ∀ k, k < l.nextId → (l.ask r true).Queued pend k → l.Queued pend k := by
    intro k less mem
    rw [Queued, waiting, List.map_append, List.mem_append] at mem
    rcases mem with before | new
    · exact before
    · have eq : k = l.nextId := List.mem_singleton.mp new
      omega
  refine ⟨sound.pending, ?_, ?_, ?_, ?_, ?_, ?_, ?_, sound.unread,
    sound.history.mono fun a mem => List.mem_append.mpr (Or.inl mem), ?_, ?_⟩
  · rw [waiting, List.map_append, List.pairwise_append]
    refine ⟨sound.increasing, List.pairwise_singleton _ _, fun k before j new => ?_⟩
    obtain ⟨x, mem, rfl⟩ := List.mem_map.mp before
    rw [List.mem_singleton.mp new]
    exact sound.lt_nextId mem
  · intro x mem
    rw [waiting] at mem
    rcases List.mem_append.mp mem with before | new
    · obtain ⟨r', asked, source⟩ := sound.sent x before
      exact ⟨r', List.mem_append.mpr (Or.inl asked), source⟩
    · rw [List.mem_singleton.mp new]
      exact ⟨r, List.mem_append.mpr (Or.inr (List.mem_singleton.mpr rfl)), rfl⟩
  · have asked : (l.ask r true).asked.map Prod.fst = l.asked.map Prod.fst ++ [l.nextId] :=
      List.map_append
    rw [asked, List.pairwise_append]
    refine ⟨sound.numbered, List.pairwise_singleton _ _, fun k before j new => ?_⟩
    obtain ⟨a, mem, rfl⟩ := List.mem_map.mp before
    rw [List.mem_singleton.mp new]
    exact sound.below a mem
  · intro a mem
    rcases List.mem_append.mp mem with before | new
    · exact Nat.lt_succ_of_lt (sound.below a before)
    · rw [List.mem_singleton.mp new]
      exact Nat.lt_succ_self _
  · intro e q gathered resume stage
    obtain ⟨k, own, below, later⟩ := sound.busy e q gathered resume stage
    refine ⟨k, own, Nat.lt_succ_of_lt below, fun x mem => ?_⟩
    rw [waiting] at mem
    rcases List.mem_append.mp mem with before | new
    · exact later x before
    · rw [List.mem_singleton.mp new]
      exact below
  · intro k value mem
    rcases List.mem_append.mp mem with before | new
    · exact Nat.lt_succ_of_lt (sound.replies k value before)
    · cases List.mem_singleton.mp new
  · intro m mem
    obtain ⟨k, about, below, begun⟩ := sound.named m mem
    exact ⟨k, about, Nat.lt_succ_of_lt below, fun waits => begun (queued k below waits)⟩
  · intro e holds
    cases Option.some.inj holds
    refine ⟨rfl, r, List.mem_append.mpr (Or.inr (List.mem_singleton.mpr rfl)), rfl, ?_⟩
    have replies :
        (l.toWorker ++ [HostFrame.exec l.nextId r.source]).filter (repliesTo l.nextId) = [] := by
      rw [List.filter_append, sound.toWorker_new]
      rfl
    have start : Phase P ((l.ask r true).Begins P first) l.nextId r l.worker.stage
        (l.said.filter (Notice.regards l.nextId)) (l.toHost.filter (Notice.regards l.nextId))
        ((l.toWorker ++ [HostFrame.exec l.nextId r.source]).filter (repliesTo l.nextId))
        ((l.ask r true).Queued pend l.nextId) 0 := by
      rw [sound.said_new, sound.toHost_new, replies]
      exact .waits waits
    exact start
  · intro a mem
    have settled := sound.answered a mem
    exact settled.mono (Nat.le_succ _) rfl rfl (fun a mem => List.mem_append.mpr (Or.inl mem))
      (queued a.1 settled.below)

/-- The host has read something, and may have replied. -/
theorem Sound.host (sound : l.Sound P first pend) {current : Option Exchange}
    (frames : List HostFrame)
    {notices : List Notice} (queue : frames.filterMap execOf? = l.toWorker.filterMap execOf?)
    (replies : ∀ k value, .inputReply k value ∈ frames → k < l.nextId)
    (unread : ∀ m ∈ notices, m ∈ l.toHost)
    (live : ∀ e, current = some e → l.nextId = e.id + 1 ∧
      ∃ r, (e.id, r) ∈ l.asked ∧ e.cursor.lines = r.stdin ∧
        Phase P (l.Begins P first) e.id r l.worker.stage (l.said.filter (Notice.regards e.id))
          (notices.filter (Notice.regards e.id)) (frames.filter (repliesTo e.id)) (l.Queued pend e.id)
          e.cursor.position) :
    Sound P first { l with current := current, toWorker := frames, toHost := notices } pend := by
  have waiting : Link.waiting { l with current := current, toWorker := frames, toHost := notices } pend =
      l.waiting pend := by
    rw [Link.waiting, Link.waiting, queue]
  have queued : ∀ k, Link.Queued
      { l with current := current, toWorker := frames, toHost := notices } pend k =
        l.Queued pend k := by
    intro k
    rw [Link.Queued, Link.Queued, waiting]
  refine ⟨sound.pending, ?_, ?_, sound.numbered, sound.below, ?_, replies, ?_, ?_, sound.history,
    ?_, ?_⟩
  · rw [waiting]
    exact sound.increasing
  · rw [waiting]
    exact sound.sent
  · rw [waiting]
    exact sound.busy
  · intro m mem
    obtain ⟨k, about, below, begun⟩ := sound.named m mem
    exact ⟨k, about, below, by rw [queued]; exact begun⟩
  · exact fun m mem => sound.unread m (unread m mem)
  · intro e holds
    rw [queued]
    exact live e holds
  · intro a mem
    exact (sound.answered a mem).mono (Nat.le_refl _) rfl rfl (fun _ => id) (by rw [queued]; exact id)

/-- A request that has been carried out is answered. -/
theorem Sound.answer (sound : l.Sound P first pend) {k : Nat} {output : String}
    {error : Option ErrorDetail}
    (settled : Settled P first l pend k (output, error)) :
    Sound P first { l with answered := l.answered ++ [(k, output, error)] } pend :=
  { sound with
    answered := fun a mem => by
      rcases List.mem_append.mp mem with before | new
      · exact (sound.answered a before).mono (Nat.le_refl _) rfl rfl (fun _ => id) id
      · rw [List.mem_singleton.mp new]
        exact settled.mono (Nat.le_refl _) rfl rfl (fun _ => id) id }

/-- The host has read a question and replies, or the request is given up before. -/
theorem Sound.reply (sound : l.Sound P first pend) {rest : List Notice}
    (subset : ∀ m ∈ rest, m ∈ l.toHost)
    {k : Nat} (below : k < l.nextId) (value : Option String) (next : Exchange) (replies : Bool)
    (live : l.nextId = next.id + 1 ∧ ∃ r, (next.id, r) ∈ l.asked ∧ next.cursor.lines = r.stdin ∧
      Phase P (l.Begins P first) next.id r l.worker.stage (l.said.filter (Notice.regards next.id))
        (rest.filter (Notice.regards next.id))
        (l.toWorker.filter (repliesTo next.id) ++ [.inputReply k value].filter (repliesTo next.id))
        (l.Queued pend next.id) next.cursor.position) :
    Sound P first
      (if replies then
        { l with current := some next, toWorker := l.toWorker ++ [.inputReply k value], toHost := rest }
      else { l with current := none, toHost := rest }) pend := by
  cases replies with
  | false => exact sound.host l.toWorker rfl sound.replies subset nofun
  | true =>
    refine sound.host (l.toWorker ++ [.inputReply k value]) ?_ ?_ subset fun e holds => ?_
    · rw [List.filterMap_append]
      exact List.append_nil _
    · intro j value' mem
      rcases List.mem_append.mp mem with before | new
      · exact sound.replies j value' before
      · cases List.mem_singleton.mp new
        exact below
    · cases holds
      rw [List.filter_append]
      exact live

/-- The host reads a notice about the request that holds the pipe. -/
theorem Sound.read_own (sound : l.Sound P first pend) {e : Exchange} (holds : l.current = some e)
    {m : Notice} {rest : List Notice} (next : l.toHost = m :: rest)
    (about : m.request? = some (.ofNat e.id)) (replies : Bool) :
    Sound P first ({ l with toHost := rest }.receive e replies m.line) pend := by
  obtain ⟨last, r, asked, lines, phase⟩ := sound.live e holds
  obtain ⟨k, about', below, begun⟩ := sound.named m (sound.unread m (next ▸ List.mem_cons_self ..))
  obtain rfl : k = e.id := ofNat_inj (Option.some.inj (about'.symm.trans about))
  have subset : ∀ m ∈ rest, m ∈ l.toHost := fun m mem => next ▸ List.mem_cons_of_mem _ mem
  have own : Notice.regards e.id m = true := by
    rw [Notice.regards_of_request? about]
    exact beq_self_eq_true _
  rw [next, List.filter_cons_of_pos own] at phase
  obtain ⟨alone, quiet⟩ := phase.of_unread
  rw [receive, Notice.ofLine?_line (Notice.numbered_of_request? about)]
  cases read : m.frame? with
  | none =>
    have same : ({ l with toHost := rest } : Link μ) = { l with current := some e, toHost := rest } := by
      rw [← holds]
    dsimp only
    rw [same]
    refine sound.host l.toWorker rfl sound.replies subset fun e' eq => ?_
    cases eq
    refine ⟨last, r, asked, lines, ?_⟩
    rw [alone, quiet]
    exact .lost begun
  | some frame =>
    dsimp only
    rcases Notice.asks_or_ends about with asks | ends
    · have reaction := Notice.react_of_asks asks about read e
      rw [if_pos rfl] at reaction
      rw [react_reply reaction]
      refine sound.reply subset below _ _ replies
        ⟨last, r, asked, (LineCursor.next_lines e.cursor).trans lines, ?_⟩
      have after := phase.of_question asks
      have sole : [HostFrame.inputReply e.id e.cursor.next.1].filter (repliesTo e.id) =
          [.inputReply e.id e.cursor.next.1] :=
        List.filter_cons_of_pos (beq_self_eq_true e.id)
      rw [← lines] at after
      rw [alone, quiet, sole]
      exact after
    · obtain ⟨output, error, reaction, answer⟩ := Notice.react_of_ends ends about read
      obtain ⟨idle, questions, world, conducted, spoken⟩ := phase.of_end ends
      have gone : Sound P first { l with current := none, toHost := rest } pend :=
        sound.host l.toWorker rfl sound.replies subset nofun
      have settled : Settled P first { l with current := none, toHost := rest } pend e.id
          (output, error) :=
        ⟨below, idle, begun, r, questions, m, world, asked, conducted, spoken, answer⟩
      rw [react_answer reaction]
      exact gone.answer settled

/-- The host reads a notice about a request that has been given up. -/
theorem Sound.read_other (sound : l.Sound P first pend) {e : Exchange} (holds : l.current = some e)
    {m : Notice} {rest : List Notice} (next : l.toHost = m :: rest) {k : Nat}
    (about : m.request? = some (.ofNat k)) (below : k < l.nextId) (other : k ≠ e.id)
    (replies : Bool) :
    Sound P first ({ l with toHost := rest }.receive e replies m.line) pend := by
  obtain ⟨last, r, asked, lines, phase⟩ := sound.live e holds
  have subset : ∀ m ∈ rest, m ∈ l.toHost := fun m mem => next ▸ List.mem_cons_of_mem _ mem
  have foreign : Notice.regards e.id m = false := by
    rw [Notice.regards_of_request? about]
    exact beq_eq_false_iff_ne.mpr other
  rw [next, List.filter_cons_of_neg (by rw [foreign]; exact Bool.false_ne_true)] at phase
  have passed : Sound P first { l with toHost := rest } pend := by
    have same : ({ l with toHost := rest } : Link μ) = { l with current := some e, toHost := rest } := by
      rw [← holds]
    rw [same]
    refine sound.host l.toWorker rfl sound.replies subset fun e' eq => ?_
    cases eq
    exact ⟨last, r, asked, lines, phase⟩
  rw [receive, Notice.ofLine?_line (Notice.numbered_of_request? about)]
  cases read : m.frame? with
  | none => exact passed
  | some frame =>
    dsimp only
    rcases Notice.asks_or_ends about with asks | ends
    · have reaction := Notice.react_of_asks asks about read e
      rw [if_neg other] at reaction
      rw [react_reply reaction]
      refine sound.reply subset below none e replies ⟨last, r, asked, lines, ?_⟩
      have silent : ([HostFrame.inputReply k none] : List HostFrame).filter (repliesTo e.id) = [] :=
        List.filter_cons_of_neg (by rw [repliesTo, beq_iff_eq]; exact other)
      rw [silent, List.append_nil]
      exact phase
    · rw [react_ignore (Notice.react_of_ends_other ends about other read)]
      exact passed

/-- The host reads the next notice. -/
theorem Sound.read (sound : l.Sound P first pend) {e : Exchange} (holds : l.current = some e)
    {m : Notice}
    {rest : List Notice} (next : l.toHost = m :: rest) (replies : Bool) :
    Sound P first ({ l with toHost := rest }.receive e replies m.line) pend := by
  obtain ⟨k, about, below, _⟩ := sound.named m (sound.unread m (next ▸ List.mem_cons_self ..))
  by_cases own : k = e.id
  · exact sound.read_own holds next (own ▸ about) replies
  · exact sound.read_other holds next about below own replies

/-! ## Whole runs -/

theorem sound_start (world : μ) : Sound P world (start world) [] where
  pending := rfl
  increasing := List.Pairwise.nil
  sent := nofun
  numbered := List.Pairwise.nil
  below := nofun
  busy := nofun
  replies := nofun
  named := nofun
  unread := nofun
  history := .none
  live := nofun
  answered := nofun

theorem Sound.step (sound : l.Sound P first pend) (event : Event) :
    ∃ pend', Sound P first (l.step P event) pend' := by
  cases event with
  | ask request sent =>
    rw [Link.step]
    split
    next free =>
      cases sent with
      | false => exact ⟨pend, sound.skip (Option.isNone_iff_eq_none.mp free)⟩
      | true => exact ⟨pend, sound.ask request⟩
    next => exact ⟨pend, sound⟩
  | hear =>
    rw [Link.step]
    split
    next frame rest next _ => exact sound.hear next
    next => exact ⟨pend, sound⟩
  | write => exact ⟨pend, sound.write⟩
  | read replies =>
    rw [Link.step]
    split
    next e m rest holds next =>
      split
      next => exact ⟨pend, sound.read holds next replies⟩
      next => exact ⟨pend, sound⟩
    next => exact ⟨pend, sound⟩
  | leave => exact ⟨pend, sound.leave⟩

theorem Sound.run (sound : l.Sound P first pend) (events : List Event) :
    ∃ pend', Sound P first (l.run P events) pend' := by
  induction events generalizing l pend with
  | nil => exact ⟨pend, sound⟩
  | cons event events ih =>
    obtain ⟨_, later⟩ := sound.step event
    rw [run_cons]
    exact ih later

/-- **Isolation of requests.** Whatever a host and a worker do from the start of a session on, a
request that is answered has been sent, and its source has been run once, in the world that the
requests before it have left, with each pull answered with the next line of its own input and with
none after the last. The worker has said nothing about the request but what that run has, and the
answer is what the host makes of the end of it. -/
theorem isolated (P : Programs μ) (world : μ) (events : List Event) {id : Nat} {output : String}
    {error : Option ErrorDetail}
    (answered : (id, output, error) ∈ ((start world).run P events).answered) :
    ∃ request asked last before earlier after,
      (id, request) ∈ ((start world).run P events).asked ∧
      (∀ other, (id, other) ∈ ((start world).run P events).asked → other = request) ∧
      Runs P ((start world).run P events).asked world (.idle before) earlier ∧
      conduct P before id request.source (pulls request.stdin asked.length) =
        (.idle after, asked ++ [last]) ∧
      (∀ notice ∈ asked, notice.Asks) ∧
      ((start world).run P events).said.filter (Notice.regards id) = asked ++ [last] ∧
      last.answer? = some (output, error) := by
  obtain ⟨pend, sound⟩ := (sound_start (P := P) world).run events
  generalize (start world).run P events = l at answered sound ⊢
  obtain ⟨request, asked, last, after, own, carried, said, answer⟩ := (sound.answered _ answered).own
  obtain ⟨asks, before, ⟨earlier, runs⟩, conducted⟩ := carried
  exact ⟨request, asked, last, before, earlier, after, own, fun other asked => sound.unique asked own,
    runs, conducted, asks, said, answer⟩

/-- Every source asks for one line. -/
def recital : Programs Unit := fun _ world =>
  .ask .line fun _ => .done (.finished, world)

/-- The first request is given up while its program waits for a line; its program goes on without
one, and the second request is answered with its own line. -/
theorem isolated_after_leave :
    let events : List Event := [.ask ⟨"", .python, ["one"]⟩ true, .hear, .leave,
      .ask ⟨"", .python, ["two"]⟩ true, .write, .hear, .write, .read true, .write, .read true,
      .read true, .hear, .hear, .write, .read true]
    let l := (start ()).run recital events
    (2, "📥 two\n", none) ∈ l.answered ∧
      ∃ request asked last before earlier after,
        (2, request) ∈ l.asked ∧ (∀ other, (2, other) ∈ l.asked → other = request) ∧
        Runs recital l.asked () (.idle before) earlier ∧
        conduct recital before 2 request.source (pulls request.stdin asked.length) =
          (.idle after, asked ++ [last]) ∧
        (∀ notice ∈ asked, notice.Asks) ∧ l.said.filter (Notice.regards 2) = asked ++ [last] ∧
        last.answer? = some ("📥 two\n", none) := by
  intro events l
  have answered : (2, "📥 two\n", none) ∈ l.answered := by decide +kernel
  exact ⟨answered, isolated recital () events answered⟩

end Link

end Snippet.Guest
