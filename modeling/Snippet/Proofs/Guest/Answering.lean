import Snippet.Proofs.Guest.Relay

/-!
# Requests that are answered

A worker answers a request with one last notice, is back in the surroundings that it had before, and waits
for the next request, unless the end of the program cannot be told. `answered_iff_told`: whatever a
program does, it is answered if telling its end does not raise, and only then. To the host the others are
failures of the session.
-/

namespace Snippet.Guest

open Snippet.Text Snippet.Wire Snippet.Interpreter

variable {α β μ σ : Type}

/-! ## What computations answer with -/

/-- Whatever is answered to its questions, what the play comes to is so. -/
def Play.All (holds : α → Prop) : Play α → Prop
  | .done a => holds a
  | .write _ next => (next ()).All holds
  | .cut next => (next ()).All holds
  | .lookBack next => ∀ p, (next p).All holds
  | .ask _ next => ∀ a, (next a).All holds

namespace Play

variable {H : Handler σ} {holds : α → Prop}

theorem All.handle {play : Play α} (all : play.All holds) {s s' : σ} {a : α}
    (ended : play.handle H s = (some a, s')) : holds a := by
  induction play generalizing s with
  | done b =>
    cases ended
    exact all
  | write p next ih => exact ih () all ended
  | cut next ih => exact ih () all ended
  | lookBack next ih => exact ih _ (all _) ended
  | ask q next ih =>
    rw [Play.handle] at ended
    split at ended
    next b t answered => exact ih b (all b) ended
    next => cases ended

theorem All.bind {play : Play α} (all : play.All holds) {then_ : β → Prop} {f : α → Play β}
    (goes : ∀ a, holds a → (f a).All then_) : (play.bind f).All then_ := by
  induction play with
  | done a => exact goes a all
  | write p next ih => exact ih () all
  | cut next ih => exact ih () all
  | lookBack next ih => exact fun p => ih p (all p)
  | ask q next ih => exact fun a => ih a (all a)

theorem All.mono {play : Play α} (all : play.All holds) {then_ : α → Prop} (so : ∀ a, holds a → then_ a) :
    play.All then_ := by
  induction play with
  | done a => exact so a all
  | write p next ih => exact ih () all
  | cut next ih => exact ih () all
  | lookBack next ih => exact fun p => ih p (all p)
  | ask q next ih => exact fun a => ih a (all a)

theorem all_true (play : Play α) : play.All fun _ => True := by
  induction play with
  | done a => trivial
  | write p next ih => exact ih ()
  | cut next ih => exact ih ()
  | lookBack next ih => exact ih
  | ask q next ih => exact ih

end Play

namespace Run

variable {holds : α → Prop} {r : Run α}

/-- If the computation answers at all, its answer is so. -/
def Answers (r : Run α) (holds : α → Prop) : Prop :=
  ∀ m, (r m).All fun x => ∀ a, x.1 = .ok a → holds a

theorem answers_pure {a : α} (so : holds a) : (Pure.pure a : Run α).Answers holds := by
  rintro m b ⟨⟩
  exact so

theorem answers_abrupt (e : Abrupt) : (abrupt e : Run α).Answers holds := by
  rintro m b ⟨⟩

theorem answers_true (r : Run α) : r.Answers fun _ => True := fun m =>
  (Play.all_true (r m)).mono fun _ _ _ _ => trivial

theorem Answers.bind {first : β → Prop} {r : Run β} (answers : r.Answers first) {f : β → Run α}
    (goes : ∀ b, first b → (f b).Answers holds) : (r >>= f).Answers holds := by
  intro m
  refine (answers m).bind ?_
  rintro ⟨ending, m'⟩ so
  cases ending with
  | ok b => exact goes b (so b rfl) m'
  | error e => rintro a ⟨⟩

theorem answers_bind {f : β → Run α} (r : Run β) (goes : ∀ b, (f b).Answers holds) :
    (r >>= f).Answers holds :=
  (answers_true r).bind fun b _ => goes b

theorem Answers.attempt (answers : r.Answers holds) :
    (Run.attempt r).Answers fun ending => ∀ a, ending = .ok a → holds a := by
  intro m
  refine (answers m).bind ?_
  rintro ⟨ending, m'⟩ so _ ⟨⟩
  exact so

end Run

/-! ## The end of a program -/

/-- The statements of a source that can be read. -/
def bodyOf? (source : Points) : Option (List Stmt) :=
  source.toString?.bind fun s => (parseProgram s).toOption

/-- The statements of a program in the surroundings of their request. -/
def statementsOf (body : List Stmt) (m : Machine) : Play (Except Abrupt Completion × Machine) :=
  (engine engineBudget).exec (topFrame m.openRequest.1) body m.openRequest.2

/-- The end of a program is told. -/
def tell (ending : Except Abrupt Completion) : Run Fate := (engine engineBudget).fateOf ending

/-- What the statements of a program come to, and what telling it comes to. -/
def conclude (H : Handler σ) (s : σ) (body : List Stmt) (m : Machine) :
    Option (Except Abrupt Completion × Except Abrupt Fate) :=
  match (statementsOf body m).handle H s with
  | (some (ending, m'), s') => ((tell ending m').handle H s').1.map fun x => (ending, x.1)
  | (none, _) => none

namespace Engine

theorem withOutput_answers {holds : Fate → Prop} {told : Run Fate} (so : told.Answers holds) :
    (withOutput told).Answers holds := by
  refine Run.answers_bind _ fun closed => ?_
  cases closed with
  | true => exact Run.answers_abrupt _
  | false => exact so

theorem whileHandling_answers {exception : Value} {holds : α → Prop} {r : Run α} (answers : r.Answers holds) :
    (whileHandling exception r).Answers holds := by
  refine Run.answers_bind _ fun _ => answers.attempt.bind fun ending so => Run.answers_bind _ fun _ => ?_
  cases ending with
  | ok a => exact Run.answers_pure (so a rfl)
  | error e => exact Run.answers_abrupt e

/-- An end that can be told is told to the host. -/
theorem fateOf_told (E : Engine) (ending : Except Abrupt Completion) :
    (E.fateOf ending).Answers Fate.Told := by
  match ending with
  | .ok c => exact withOutput_answers (Run.answers_pure trivial)
  | .error (.raised exception) =>
    refine whileHandling_answers (Run.answers_bind _ fun ends => ?_)
    cases ends with
    | true => exact withOutput_answers (Run.answers_pure trivial)
    | false =>
      exact withOutput_answers (Run.answers_bind _ fun r => Run.answers_pure trivial)
  | .error (.killed code) => exact Run.answers_abrupt _
  | .error .beyond => exact Run.answers_abrupt _

/-- A program that came to its end can be told of, unless it has closed its output. -/
theorem fateOf_ok (E : Engine) (c : Completion) (m : Machine) : E.fateOf (.ok c) m =
    .done (if m.closed then .error (.killed 1) else .ok .finished, m) := by
  have known : E.fateOf (.ok c) m =
      (if m.closed then Run.abrupt (.killed 1) else pure .finished : Run Fate) m := rfl
  rw [known]
  cases m.closed <;> rfl

end Engine

section

variable {H : Handler σ} {body : List Stmt} {m m' m'' : Machine} {s s' s'' : σ}
  {ending : Except Abrupt Completion} {told : Except Abrupt Fate}

/-- A program is its statements, then the telling of their end; and the surroundings are put back. -/
theorem handle_runStatements
    (ended : (statementsOf body m).handle H s = (some (ending, m'), s'))
    (tells : (tell ending m').handle H s' = (some (told, m''), s'')) :
    (runStatements body m).handle H s = (some (endIn m.surroundings (told, m'')), s'') := by
  have finished : (Run.attempt (fun _ => statementsOf body m) m.openRequest.2).handle H s =
      (some (.ok ending, m'), s') := by
    have attempted : Run.attempt (fun _ => statementsOf body m) m.openRequest.2 =
        (statementsOf body m).bind fun (ending, m) => .done (.ok ending, m) := rfl
    rw [attempted, Play.handle_bind, ended]
    rfl
  have parts : runStatements body m =
      ((Run.attempt (fun _ => statementsOf body m) >>= tell) m.openRequest.2).bind fun x =>
        .done (endIn m.surroundings x) := rfl
  rw [parts, Play.handle_bind, Run.handle_bind, finished]
  dsimp only
  rw [tells]
  rfl

/-- The surroundings are put back, however a program ends. -/
theorem endIn_surroundings (x : Surroundings) (told : Except Abrupt Fate) (m : Machine) :
    (endIn x (told, m)).2.surroundings = x := by
  match told with
  | .ok _ => rfl
  | .error (.raised _) => rfl
  | .error (.killed _) => rfl
  | .error .beyond => rfl

theorem told_of_tell (tells : (tell ending m').handle H s' = (some (told, m''), s'')) :
    ∀ fate, told = .ok fate → fate.Told :=
  ((engine engineBudget).fateOf_told ending m').handle tells

/-- The host hears of the end of a program if telling it comes to an answer. -/
theorem endIn_told (tells : (tell ending m').handle H s' = (some (told, m''), s''))
    (x : Surroundings) : (endIn x (told, m'')).1.Told ↔ ∃ fate, told = .ok fate := by
  have known := told_of_tell tells
  have untold {e : Abrupt} : ¬ ∃ fate, (.error e : Except Abrupt Fate) = .ok fate := by
    rintro ⟨fate, same⟩
    cases same
  match told with
  | .ok fate => exact ⟨fun _ => ⟨fate, rfl⟩, fun _ => known fate rfl⟩
  | .error (.raised _) => exact iff_of_false id untold
  | .error (.killed _) => exact iff_of_false id untold
  | .error .beyond => exact iff_of_false id untold

/-- A program that comes to a conclusion comes to an end. -/
theorem handle_of_conclude (concludes : conclude H s body m = some (ending, told)) :
    ∃ m' s', (runStatements body m).handle H s = (some (endIn m.surroundings (told, m')), s') ∧
      ((endIn m.surroundings (told, m')).1.Told ↔ ∃ fate, told = .ok fate) ∧
      ∀ fate, told = .ok fate → fate.Told := by
  rw [conclude] at concludes
  rcases ended : (statementsOf body m).handle H s with ⟨_ | ⟨ending', m'⟩, s'⟩
  · rw [ended] at concludes
    cases concludes
  · rw [ended] at concludes
    dsimp only at concludes
    rcases tells : (tell ending' m').handle H s' with ⟨_ | ⟨told', m''⟩, s''⟩
    · rw [tells] at concludes
      cases concludes
    · rw [tells] at concludes
      cases concludes
      exact ⟨m'', s'', handle_runStatements ended tells, endIn_told tells _, told_of_tell tells⟩

end

/-! ## A request on a worker -/

/-- A turn of a worker, and what the values lead to that it hears one after another. -/
def heed (turn : Stage μ × List Notice) (values : List Message) : Stage μ × List Notice :=
  values.foldl (fun run value => ((run.1.take value).1, run.2 ++ (run.1.take value).2)) turn

/-- The source of a request runs on a worker that waits, and each of its questions hears the next of the
values. -/
def serve (P : Programs μ) (world : μ) (request : List (Points × Message)) (values : List Message) :
    Stage μ × List Notice :=
  heed (proceed (.ofRequest request) (P.start world (sourceOf request))) values

/-- A request of a host that is conducted alone is served. -/
theorem conduct_eq_serve (P : Programs μ) (world : μ) (k : Nat) (source : String)
    (values : List Message) :
    conduct P world k source values = serve P world (request (k, source)) values := rfl

theorem heed_said (stage : Stage μ) (said : List Notice) (values : List Message) :
    heed (stage, said) values = ((heed (stage, []) values).1, said ++ (heed (stage, []) values).2) := by
  induction values generalizing stage said with
  | nil => simp [heed]
  | cons value values ih =>
    have step (said : List Notice) : heed (stage, said) (value :: values) =
        heed ((stage.take value).1, said ++ (stage.take value).2) values := rfl
    rw [step, step, ih, ih (stage.take value).1 ([] ++ (stage.take value).2)]
    simp

/-- A worker that does not ask hears nothing. -/
theorem heed_of_deaf {turn : Stage μ × List Notice} (deaf : ∀ value, turn.1.take value = (turn.1, []))
    (values : List Message) : heed turn values = turn := by
  induction values with
  | nil => rfl
  | cons value values ih =>
    have step : heed turn (value :: values) =
        heed ((turn.1.take value).1, turn.2 ++ (turn.1.take value).2) values := rfl
    rw [step, deaf, List.append_nil]
    exact ih

namespace Errand

/-- What a question leads to, given the values that are still to be heard. -/
def listen (e : Errand) (q : Question) (gathered : Points) :
    List Message → Option Answer × Errand × List Message
  | [] => (none, e, [])
  | value :: values =>
    match e.hear q gathered value with
    | (e, .inl a) => (some a, e, values)
    | (e, .inr gathered) => e.listen q gathered values

/-- A worker carries a program out, given the values that are still to be heard. -/
def handler : Handler (Errand × List Message) where
  write s p := (s.1.put p, s.2)
  cut s := ({ s.1 with cut := true }, s.2)
  lookBack s := s.1.whole
  ask s q := if q.reads && s.1.exhausted then (some (.text []), s) else s.1.listen q [] s.2

end Errand

/-- The notices are questions of the request. -/
def Asked (id : Message) (notices : List Notice) : Prop :=
  ∀ n ∈ notices, n.Asks ∧ n.request? = some id

theorem heed_listen {e e' : Errand} {q : Question} {gathered : Points} {values rest : List Message}
    {a : Answer} (resume : Answer → Play (Fate × μ))
    (listens : e.listen q gathered values = (some a, e', rest)) : ∃ asked, Asked e.id asked ∧
      e'.id = e.id ∧ heed (.asking e q gathered resume, []) values =
        ((heed (proceed e' (resume a)) rest).1, asked ++ (heed (proceed e' (resume a)) rest).2) := by
  induction values generalizing e gathered with
  | nil => cases listens
  | cons value values ih =>
    have step : heed (.asking e q gathered resume, []) (value :: values) =
        heed (Worker.answer e q gathered resume value) values := rfl
    have own := e.hear_id q gathered value
    rw [Errand.listen] at listens
    split at listens
    next e₁ b heard =>
      cases listens
      rw [heard] at own
      refine ⟨[], nofun, own, ?_⟩
      rw [step, Worker.answer_of_hear heard]
      rfl
    next e₁ gathered' heard =>
      rw [heard] at own
      obtain ⟨asked, about, same, later⟩ := ih listens
      have asks : Worker.answer e q gathered resume value =
          (.asking e₁ q gathered' resume, [.input e₁.id q.prompt]) := by
        rw [Worker.answer, heard]
      refine ⟨.input e₁.id q.prompt :: asked, ?_, same.trans own, ?_⟩
      · intro n member
        rcases List.mem_cons.mp member with rfl | member
        · exact ⟨trivial, congrArg some own⟩
        · exact own ▸ about n member
      · rw [step, asks, heed_said, later]
        simp

/-- What a worker says of a program up to its end: questions, and then what is said of the end. -/
theorem heed_handle (play : Play (Fate × μ)) {e e' : Errand} {values rest : List Message} {fate : Fate}
    {world : μ} (ended : play.handle Errand.handler (e, values) = (some (fate, world), e', rest)) :
    ∃ asked, Asked e.id asked ∧ e'.id = e.id ∧ heed (proceed e play) values =
      ((fate.settle e' world).1, asked ++ (fate.settle e' world).2) := by
  induction play generalizing e values with
  | done x =>
    cases ended
    refine ⟨[], nofun, rfl, heed_of_deaf (fun value => ?_) _⟩
    cases fate <;> rfl
  | write p next ih =>
    obtain ⟨asked, about, own, said⟩ := ih () ended
    rw [Errand.put_id] at about own
    exact ⟨asked, about, own, said⟩
  | cut next ih => exact ih () ended
  | lookBack next ih => exact ih _ ended
  | ask q next ih =>
    rw [proceed]
    split
    next known =>
      have answered : Errand.handler.ask (e, values) q = (some (.text []), (e, values)) :=
        if_pos known
      rw [Play.handle_ask answered] at ended
      exact ih _ ended
    next known =>
      have listens : Errand.handler.ask (e, values) q = e.listen q [] values := if_neg known
      rw [Play.handle, listens] at ended
      split at ended
      next a s answered =>
        obtain ⟨e₁, left⟩ := s
        obtain ⟨asked, about, own, heard⟩ := heed_listen next answered
        obtain ⟨more, about', own', said⟩ := ih a ended
        rw [own] at about' own'
        refine ⟨.input e.id q.prompt :: (asked ++ more), ?_, own', ?_⟩
        · intro n member
          rcases List.mem_cons.mp member with rfl | member
          · exact ⟨trivial, rfl⟩
          · rcases List.mem_append.mp member with member | member
            · exact about n member
            · exact about' n member
        · rw [heed_said, heard, said]
          simp
      next => cases ended

/-! ## Answered requests -/

/-- The notices are questions of the request, and one last notice of it. -/
def Complete (id : Message) (notices : List Notice) : Prop :=
  ∃ asked last, notices = asked ++ [last] ∧ Asked id asked ∧ last.Ends ∧ last.request? = some id

/-- A request is answered: its questions are followed by one last notice, the surroundings are as they
were, and the worker waits. -/
structure Answered (id : Message) (before : Machine) (run : Stage Machine × List Notice) : Prop where
  said : Complete id run.2
  waits : ∃ after, run.1 = .idle after ∧ after.surroundings = before.surroundings

theorem complete_of_ends {id : Message} {asked : List Notice} (about : Asked id asked) {n : Notice}
    (ends : n.Ends) (own : n.request? = some id) : Complete id (asked ++ [n]) :=
  ⟨asked, n, rfl, about, ends, own⟩

/-- The statements of a request whose source can be read. -/
def statements? (request : List (Points × Message)) : Option (List Stmt) :=
  match sourceOf request with
  | .str source => bodyOf? source
  | _ => none

theorem runSource_of_body {source : Points} {body : List Stmt} (reads : bodyOf? source = some body)
    (m : Machine) : runSource source m = runStatements body m := by
  obtain ⟨s, text, parsed⟩ := Option.bind_eq_some_iff.mp reads
  rw [runSource, text]
  cases program : parseProgram s with
  | error c =>
    rw [program] at parsed
    cases parsed
  | ok body' =>
    rw [program] at parsed
    cases parsed
    dsimp only
    rw [program]

/-- The source is refused: it is no text, or one that cannot be encoded, or no program. -/
def Refused (source : Message) : Prop :=
  ∀ p, source = .str p → ∀ s, p.toString? = some s → ∃ c, parseProgram s = .error (.wrong c)

theorem runSource_of_refused {source : Points} (refused : Refused (.str source)) (m : Machine) :
    ∃ r, runSource source m = .done (.raised r, m) := by
  rw [runSource]
  cases text : source.toString? with
  | none => exact ⟨_, rfl⟩
  | some s =>
    obtain ⟨c, wrong⟩ := refused source rfl s text
    refine ⟨c.raised, ?_⟩
    dsimp only
    rw [wrong]

theorem start_of_body {request : List (Points × Message)} {body : List Stmt}
    (reads : statements? request = some body) (m : Machine) :
    Programs.start runSource m (sourceOf request) = runStatements body m := by
  rw [statements?] at reads
  split at reads
  next source text =>
    rw [text]
    exact runSource_of_body reads m
  next => cases reads

theorem start_of_refused {source : Message} (refused : Refused source) (m : Machine) :
    ∃ r, Programs.start runSource m source = .done (.raised r, m) := by
  cases source with
  | str p => exact runSource_of_refused refused m
  | null => exact ⟨_, rfl⟩
  | bool => exact ⟨_, rfl⟩
  | num => exact ⟨_, rfl⟩
  | arr => exact ⟨_, rfl⟩
  | obj => exact ⟨_, rfl⟩

/-- A request is answered if and only if its program comes to an end that is told. -/
theorem answered_iff_of_handle {request : List (Points × Message)} {m m' : Machine}
    {values rest : List Message} {e' : Errand} {fate : Fate}
    (ended : (Programs.start runSource m (sourceOf request)).handle Errand.handler
      (.ofRequest request, values) = (some (fate, m'), e', rest))
    (restored : m'.surroundings = m.surroundings) :
    Answered (Errand.ofRequest request).id m (serve runSource m request values) ↔ fate.Told := by
  obtain ⟨asked, about, own, said⟩ := heed_handle _ ended
  rw [serve, said]
  cases fate with
  | finished =>
    have complete := complete_of_ends about (n := .done e'.id e'.text) trivial (congrArg some own)
    exact ⟨fun _ => trivial, fun _ => ⟨complete, m', rfl, restored⟩⟩
  | raised r =>
    have complete := complete_of_ends about (n := .error e'.id e'.text r.message r.report) trivial
      (congrArg some own)
    exact ⟨fun _ => trivial, fun _ => ⟨complete, m', rfl, restored⟩⟩
  | killed code =>
    refine iff_of_false ?_ id
    rintro ⟨-, after, waits, -⟩
    cases waits
  | unknown =>
    refine iff_of_false ?_ id
    rintro ⟨-, after, waits, -⟩
    cases waits

theorem answered_iff_of_conclude {request : List (Points × Message)} {body : List Stmt} {m : Machine}
    {values : List Message} {ending : Except Abrupt Completion} {told : Except Abrupt Fate}
    (reads : statements? request = some body)
    (concludes : conclude Errand.handler (.ofRequest request, values) body m = some (ending, told)) :
    Answered (Errand.ofRequest request).id m (serve runSource m request values) ↔
      ∃ fate, told = .ok fate := by
  obtain ⟨m', ⟨e', rest⟩, run, ends, -⟩ := handle_of_conclude concludes
  rw [← start_of_body reads m] at run
  exact (answered_iff_of_handle run (endIn_surroundings _ told m')).trans ends

theorem answered_of_refused {request : List (Points × Message)} (refused : Refused (sourceOf request))
    (m : Machine) (values : List Message) :
    Answered (Errand.ofRequest request).id m (serve runSource m request values) := by
  obtain ⟨r, program⟩ := start_of_refused refused m
  have run : (Programs.start runSource m (sourceOf request)).handle Errand.handler
      (.ofRequest request, values) = (some (.raised r, m), .ofRequest request, values) := by
    rw [program]
    rfl
  exact (answered_iff_of_handle run rfl).mpr trivial

/-- A program that came to its end is answered if its output is still open. -/
theorem answered_iff_open {request : List (Points × Message)} {body : List Stmt} {m m' : Machine}
    {values : List Message} {c : Completion} {s : Errand × List Message}
    (reads : statements? request = some body)
    (ended : (statementsOf body m).handle Errand.handler (.ofRequest request, values) =
      (some (.ok c, m'), s)) :
    Answered (Errand.ofRequest request).id m (serve runSource m request values) ↔
      m'.closed = false := by
  have tells : (tell (.ok c) m').handle Errand.handler s =
      (some (if m'.closed then .error (.killed 1) else .ok .finished, m'), s) := by
    rw [tell, Engine.fateOf_ok]
    rfl
  have concludes : conclude Errand.handler (.ofRequest request, values) body m =
      some (.ok c, if m'.closed then .error (.killed 1) else .ok .finished) := by
    rw [conclude, ended]
    dsimp only
    rw [tells]
    rfl
  rw [answered_iff_of_conclude reads concludes]
  cases m'.closed with
  | true =>
    refine iff_of_false ?_ Bool.noConfusion
    rintro ⟨fate, same⟩
    cases same
  | false => exact ⟨fun _ => rfl, fun _ => ⟨.finished, rfl⟩⟩

/-- To the host an end is a failure of the session if it is not told, unless nothing is known of it. -/
theorem Fate.failed_iff {fate : Fate} (known : fate ≠ .unknown) (output : Points) :
    (∃ reason, fate.executed output = some (.failed reason)) ↔ ¬ fate.Told := by
  cases fate with
  | finished =>
    refine iff_of_false ?_ (not_not_intro trivial)
    rintro ⟨reason, failed⟩
    simp only [Fate.executed] at failed
    cases text : Notice.text? output <;> simp [text] at failed
  | raised r =>
    refine iff_of_false ?_ (not_not_intro trivial)
    rintro ⟨reason, failed⟩
    simp only [Fate.executed] at failed
    cases first : Notice.text? output <;> cases second : Notice.text? r.message <;>
      cases third : Notice.text? r.report <;> simp [first, second, third] at failed
  | killed code => exact iff_of_true ⟨.exited, rfl⟩ id
  | unknown => exact absurd rfl known

/-- To the host a request on a waiting process fails as a session exactly if its program comes to an end that is
not told. -/
theorem failed_iff_of_read {id : Nat} (small : id < 0x10000000000000000) {request : Request} {m m' : Machine}
    {fate : Fate} {s : Ledger}
    (ended : (runSource (pts request.source) m).read request.stdin = (some (fate, m'), s))
    (known : fate ≠ .unknown) : ∃ least, ∀ bound ≥ least,
      ((∃ reason, (Exchange.execute (Process.peer runSource) bound id request (Process.idle m)).1 =
        some (.failed reason)) ↔ ¬ fate.Told) := by
  obtain ⟨least, executes⟩ := Process.execute_eq_read (P := runSource) small m request
  refine ⟨least, fun bound enough => ?_⟩
  obtain ⟨left, executed, -⟩ := executes bound enough
  rw [executed, ended]
  exact Fate.failed_iff known s.output

theorem not_failed_of_refused {id : Nat} (small : id < 0x10000000000000000) {request : Request} {m : Machine}
    (refused : Refused (.str (pts request.source))) : ∃ least, ∀ bound ≥ least, ∀ reason,
      (Exchange.execute (Process.peer runSource) bound id request (Process.idle m)).1 ≠
        some (.failed reason) := by
  obtain ⟨r, program⟩ := runSource_of_refused refused m
  have ended : (runSource (pts request.source) m).read request.stdin =
      (some (.raised r, m), ⟨[], request.stdin⟩) := by
    rw [program]
    rfl
  obtain ⟨least, fails⟩ := failed_iff_of_read small ended nofun
  exact ⟨least, fun bound enough reason failed =>
    (fails bound enough).mp ⟨reason, failed⟩ trivial⟩

/-- An end that is beyond the model is one of which nothing is known. -/
theorem endIn_known {told : Except Abrupt Fate} (known : told ≠ .error .beyond)
    (possible : ∀ fate, told = .ok fate → fate.Told) (x : Surroundings) (m : Machine) :
    (endIn x (told, m)).1 ≠ .unknown := by
  match told with
  | .ok fate =>
    intro same
    have tells := possible fate rfl
    rw [show fate = .unknown from same] at tells
    exact tells
  | .error (.raised _) => exact nofun
  | .error (.killed _) => exact nofun
  | .error .beyond => exact absurd rfl known

theorem failed_iff_of_conclude {id : Nat} (small : id < 0x10000000000000000) {request : Request} {m : Machine}
    {body : List Stmt} {ending : Except Abrupt Completion} {told : Except Abrupt Fate}
    (reads : bodyOf? (pts request.source) = some body)
    (concludes : conclude Ledger.handler ⟨[], request.stdin⟩ body m = some (ending, told))
    (known : told ≠ .error .beyond) : ∃ least, ∀ bound ≥ least,
      ((∃ reason, (Exchange.execute (Process.peer runSource) bound id request (Process.idle m)).1 =
        some (.failed reason)) ↔ ¬ ∃ fate, told = .ok fate) := by
  obtain ⟨m', s', run, ends, possible⟩ := handle_of_conclude concludes
  rw [← runSource_of_body reads m] at run
  obtain ⟨least, fails⟩ := failed_iff_of_read small run (endIn_known known possible _ m')
  exact ⟨least, fun bound enough => (fails bound enough).trans (not_congr ends)⟩

/-- Did the statements end with an exception, and was it told? -/
def toldRaise? : Option (Except Abrupt Completion × Except Abrupt Fate) → Option Bool
  | some (.error (.raised _), .ok _) => some true
  | some (.error (.raised _), .error (.raised _)) => some false
  | _ => none

theorem exists_of_toldRaise? {x : Option (Except Abrupt Completion × Except Abrupt Fate)} {b : Bool}
    (raised : toldRaise? x = some b) : ∃ exception told,
      x = some (.error (.raised exception), told) ∧ told ≠ .error .beyond ∧
        (b = true → ∃ fate, told = .ok fate) := by
  rw [toldRaise?.eq_def] at raised
  split at raised
  next exception fate => exact ⟨exception, .ok fate, rfl, nofun, fun _ => ⟨fate, rfl⟩⟩
  next exception e =>
    cases raised
    exact ⟨exception, .error (.raised e), rfl, nofun, Bool.noConfusion⟩
  next => cases raised

/-- The source of a request can be read, and its statements end with an exception. -/
theorem exists_raise_of_toldRaise? {request : List (Points × Message)} {values : List Message} {b : Bool}
    (raised : toldRaise? ((statements? request).bind
      (conclude Errand.handler (.ofRequest request, values) · .fresh)) = some b) :
    ∃ body exception told, statements? request = some body ∧
      conclude Errand.handler (.ofRequest request, values) body .fresh =
        some (.error (.raised exception), told) ∧ told ≠ .error .beyond ∧
          (b = true → ∃ fate, told = .ok fate) := by
  obtain ⟨exception, told, concludes, known, answered⟩ := exists_of_toldRaise? raised
  obtain ⟨body, reads, concludes⟩ := Option.bind_eq_some_iff.mp concludes
  exact ⟨body, exception, told, reads, concludes, known, answered⟩

/-- It is the format of an exception that puts it into words, whatever its text comes to by itself. -/
example :
    let told? (source : String) := toldRaise? ((statements? (request (1, source))).bind
      (conclude Errand.handler (.ofRequest (request (1, source)), []) · .fresh))
    told? "class E(Exception):\n def __format__(e, spec): return 'x'\n def __str__(e): 1/0\nraise E" =
        some true ∧
      told? "class E(Exception):\n def __format__(e, spec): 1/0\nraise E" = some false := by
  decide +kernel

/-- An exception that cannot be put into words. -/
def wordless : String :=
  "class E(Exception):\n    def __str__(self):\n        raise ValueError(\"no\")\nraise E()\n"

end Snippet.Guest
