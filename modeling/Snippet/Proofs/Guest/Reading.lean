import Snippet.Guest.Program
import Snippet.Guest.Worker
import Snippet.Proofs.Guest.Handling
import Snippet.Proofs.Wire.Frames

/-!
# Programs that read lines

A program on a worker has no lines of its own, and what it reads it asks for. Here the same program reads
its lines directly (`Play.read`), from a list that gets shorter, and everything it does is noted down.
`Play.whole_read`: it takes the lines in order and leaves the others. `Engine.readsLines` says what each
of the four ways to read comes to: a line that is taken gets to the program and is echoed, unless the output
has been closed, or a prompt cannot be put into words once more.
-/

namespace Snippet.Guest

open Snippet.Text

variable {α β σ : Type}

/-! ## Reading directly -/

/-- Something that a program does while it reads lines. -/
inductive Deed where
  | wrote (p : Points)
  /-- it takes a line under a prompt; the line is echoed at once, or left to the asker to be echoed -/
  | took (prompt : Points) (line : String) (echoed : Bool)
  /-- its output is cut off -/
  | cut
  deriving DecidableEq

namespace Deed

/-- What a deed puts into the output. -/
def text : Deed → Points
  | .wrote p => p
  | .took prompt line true => echoOf prompt (pts line)
  | .took _ _ false => []
  | .cut => []

/-- The line that is taken. -/
def line? : Deed → Option String
  | .took _ line _ => some line
  | _ => none

end Deed

/-- What a program has done, and the lines that are left for it. -/
structure Ledger where
  deeds : List Deed
  lines : List String

namespace Question

/-- The prompt is text that a host can read. -/
def legible (q : Question) : Bool := (Notice.text? q.prompt).isSome

/-- The lines that a question takes. -/
def taken : Question → List String → List String
  | .all, lines => lines
  | _, lines => lines.take 1

/-- What the lines come to as an answer. Without a line it is empty. -/
def reply : Question → List String → Answer
  | .input _, [] => .value .null
  | .input _, lines => .text (lines.flatMap pts)
  | .line, lines => .text (lines.flatMap fun line => pts line ++ [10])
  | .silent, lines => .text (lines.flatMap fun line => pts line ++ [10])
  | .all, lines => .text (lines.flatMap fun line => pts line ++ [10])

/-- Is the line echoed for whoever asks? -/
def echoes : Question → Bool
  | .input _ => false
  | .silent => false
  | _ => true

end Question

namespace Ledger

/-- The lines that have been taken, in order. -/
def pulled (s : Ledger) : List String := s.deeds.filterMap Deed.line?

/-- What is in the output: everything up to where it was cut off. -/
def output (s : Ledger) : Points := (s.deeds.takeWhile (· ≠ .cut)).flatMap Deed.text

/-- All that has been put out, also since then. -/
def everything (s : Ledger) : Points := s.deeds.flatMap Deed.text

/-- One deed more. -/
def note (s : Ledger) (d : Deed) : Ledger := { s with deeds := s.deeds ++ [d] }

/-- A question is answered with the lines that it takes. A prompt that no host can read stays without an
answer. -/
def ask (s : Ledger) (q : Question) : Option Answer × Ledger :=
  if q.legible then
    let taken := q.taken s.lines
    (some (q.reply taken),
      ⟨s.deeds ++ taken.map (.took q.prompt · q.echoes), s.lines.drop taken.length⟩)
  else (none, s)

/-- Lines are read directly. -/
def handler : Handler Ledger :=
  ⟨fun s p => s.note (.wrote p), fun s => s.note .cut, fun s => s.everything, ask⟩

end Ledger

/-- What a program that reads its lines directly comes to, and what it has done. -/
def Play.read (play : Play α) (lines : List String) : Option α × Ledger :=
  play.handle Ledger.handler ⟨[], lines⟩

namespace Ledger

variable {s : Ledger} {d : Deed} {q : Question}

@[simp] theorem pulled_note : (s.note d).pulled = s.pulled ++ d.line?.toList := by
  rw [note, pulled, List.filterMap_append]
  cases h : d.line? <;> simp [h, pulled]

theorem pulled_note_of_none (none_taken : d.line? = none) : (s.note d).pulled = s.pulled := by
  rw [pulled_note, none_taken]
  exact List.append_nil _

theorem filterMap_took (prompt : Points) (echoed : Bool) (lines : List String) :
    (lines.map (Deed.took prompt · echoed)).filterMap Deed.line? = lines := by
  rw [List.filterMap_map]
  exact List.filterMap_some

theorem legible_of_reads (reads : q.reads) : q.legible := by
  cases q <;> first | cases reads; done | decide

theorem taken_append_drop (q : Question) (lines : List String) :
    q.taken lines ++ lines.drop (q.taken lines).length = lines := by
  cases q <;> simp [Question.taken] <;> cases lines <;> simp

theorem ask_legible (legible : q.legible) : s.ask q = (some (q.reply (q.taken s.lines)),
    ⟨s.deeds ++ (q.taken s.lines).map (.took q.prompt · q.echoes),
      s.lines.drop (q.taken s.lines).length⟩) :=
  if_pos legible

theorem handler_ask (legible : q.legible) :
    handler.ask s q = (some (q.reply (q.taken s.lines)), (s.ask q).2) := by
  have same : handler.ask s q = s.ask q := rfl
  rw [same, ask_legible legible]

/-- Where there are no more lines, nothing is done but to say so. -/
theorem ask_end (legible : q.legible) (left : s.lines = []) : s.ask q = (some (q.reply []), s) := by
  obtain ⟨deeds, lines⟩ := s
  cases left
  rw [ask_legible legible]
  cases q <;> simp [Question.taken]

/-- All questions but one take a line at a time. -/
theorem ask_one (legible : q.legible) (single : q ≠ .all) {line : String} {rest : List String}
    (left : s.lines = line :: rest) :
    s.ask q = (some (q.reply [line]), ⟨s.deeds ++ [.took q.prompt line q.echoes], rest⟩) := by
  obtain ⟨deeds, lines⟩ := s
  cases left
  rw [ask_legible legible]
  cases q with
  | all => exact absurd rfl single
  | input p => rfl
  | line => rfl
  | silent => rfl

theorem pulled_ask (legible : q.legible) : (s.ask q).2.pulled = s.pulled ++ q.taken s.lines := by
  rw [ask_legible legible, pulled, List.filterMap_append, filterMap_took]
  rfl

/-- No line is lost, and none is taken twice. -/
theorem whole_ask (s : Ledger) (q : Question) :
    (s.ask q).2.pulled ++ (s.ask q).2.lines = s.pulled ++ s.lines := by
  by_cases legible : q.legible
  · rw [pulled_ask legible, ask_legible legible, List.append_assoc, taken_append_drop]
  · rw [ask, if_neg legible]

end Ledger

/-- A program that reads its lines directly takes them in order, and leaves the others. -/
theorem Play.whole_read (play : Play α) (lines : List String) :
    (play.read lines).2.pulled ++ (play.read lines).2.lines = lines := by
  refine Play.handle_preserves (I := fun s : Ledger => s.pulled ++ s.lines = lines) ?_ ?_ ?_ play rfl
  · intro s p before
    exact (congrArg (· ++ s.lines) (Ledger.pulled_note_of_none rfl)).trans before
  · intro s before
    exact (congrArg (· ++ s.lines) (Ledger.pulled_note_of_none rfl)).trans before
  · intro s q before
    exact (Ledger.whole_ask s q).trans before

/-! ## Computations that read directly -/

namespace Run

/-- One computation after another; one that ends abruptly, or stays without an answer, is the last. -/
theorem handle_bind {H : Handler σ} (r : Run α) (f : α → Run β) (m : Machine) (s : σ) :
    ((r >>= f) m).handle H s =
      match (r m).handle H s with
      | (some (.ok a, m), s) => (f a m).handle H s
      | (some (.error e, m), s) => (some (.error e, m), s)
      | (none, s) => (none, s) := by
  have parts : (r >>= f) m = Run.bind r f m := rfl
  rw [parts, Run.bind, Play.handle_bind]
  rcases (r m).handle H s with ⟨_ | ⟨_ | _, _⟩, _⟩ <;> rfl

/-- What a computation comes to that reads its lines directly, and what has been done then. -/
def reads (r : Run α) (m : Machine) (s : Ledger) : Option (Except Abrupt α × Machine) × Ledger :=
  (r m).handle Ledger.handler s

variable {m m' : Machine} {r : Run α} {a : α} {e : Abrupt} {s s' : Ledger}

theorem reads_bind_of_ok (first : r.reads m s = (some (.ok a, m'), s')) (f : α → Run β) :
    (r >>= f).reads m s = (f a).reads m' s' := by
  rw [reads] at first ⊢
  rw [handle_bind, first]
  rfl

theorem reads_bind_of_error (first : r.reads m s = (some (.error e, m'), s')) (f : α → Run β) :
    (r >>= f).reads m s = (some (.error e, m'), s') := by
  rw [reads] at first ⊢
  rw [handle_bind, first]

theorem reads_bind_of_none (first : r.reads m s = (none, s')) (f : α → Run β) :
    (r >>= f).reads m s = (none, s') := by
  rw [reads] at first ⊢
  rw [handle_bind, first]

theorem reads_ask (m : Machine) {q : Question} (legible : q.legible) :
    (Run.ask q).reads m s = (some (.ok (q.reply (q.taken s.lines)), m), (s.ask q).2) := by
  rw [reads, Run.ask, Play.handle_ask (Ledger.handler_ask legible)]
  rfl

/-- An exception leaves lines and output alone. -/
theorem reads_raise (kind message : String) (m : Machine) (s : Ledger) :
    ∃ e m', ∀ α, (Run.raise kind message : Run α).reads m s = (some (.error e, m'), s) :=
  ⟨_, _, fun _ => rfl⟩

end Run

namespace Ledger

variable {s : Ledger} {p : Points}

/-- One line is taken and echoed, if there is one. -/
def pull (s : Ledger) : Option String × Ledger :=
  match s.lines with
  | [] => (none, s)
  | line :: rest => (some line, ⟨s.deeds ++ [.took [] line true], rest⟩)

/-- A line with its end. -/
def ended (line : Option String) : Points := (line.map fun line => pts line ++ [10]).getD []

theorem ask_line (s : Ledger) : s.ask .line = (some (.text (ended s.pull.1)), s.pull.2) := by
  rw [pull]
  cases left : s.lines with
  | nil => exact ask_end (by decide) left
  | cons line rest =>
    rw [ask_one (q := .line) (by decide) nofun left]
    simp [Question.reply, Question.prompt, Question.echoes, ended]

theorem ask_all (s : Ledger) : s.ask .all =
    (some (.text (s.lines.flatMap fun line => pts line ++ [10])),
      ⟨s.deeds ++ s.lines.map (.took [] · true), []⟩) := by
  rw [ask_legible (by decide)]
  simp [Question.taken, Question.reply, Question.prompt, Question.echoes]

end Ledger

/-! ## Input under a prompt -/

namespace Engine

variable {E : Engine} {m m₁ m₂ : Machine} {s s₁ s₂ : Ledger} {args : List Value} {named : Named}
  {prompt : Value} {p q : Points} {line : String} {rest : List String}

/-- The prompt that the arguments of `input` give. -/
inductive Prompts : List Value → Named → Value → Prop where
  | none : Prompts [] [] (.str [])
  | plain (v : Value) : Prompts [v] [] v
  | named (v : Value) : Prompts [] [("prompt", v)] v

theorem reads_input (prompts : Prompts args named prompt) :
    (E.input m.serial args named).reads m s = (E.askUnder prompt).reads m s := by
  have bound : (bindArguments "_make_input.<locals>._input" ["prompt"] none [some (.str [])] args
      named).reads m s = (some (.ok [("prompt", prompt)], m), s) := by
    cases prompts <;> rfl
  have own : (Run.reading (·.serial)).reads m s = (some (.ok m.serial, m), s) := rfl
  have same : ¬ (m.serial != m.serial) = true := by simp
  rw [input, Run.reads_bind_of_ok bound, Run.reads_bind_of_ok own, if_neg same]
  rfl

theorem reads_text (p : Points) : (E.formatted (.str p) []).reads m s = (some (.ok p, m), s) := rfl

/-- The line is echoed and given to the program. -/
def handOut (q : Points) (line : String) : Run Value := do
  echoLine q (pts line)
  return .str (pts line)

theorem reads_handOut (q : Points) (line : String) (opened : m.closed = false) :
    (handOut q line).reads m s =
      (some (.ok (.str (pts line)), m), s.note (.wrote (echoOf q (pts line)))) := by
  have known : (Run.reading (·.closed)).reads m s = (some (.ok m.closed, m), s) := rfl
  have echoed : (echoLine q (pts line)).reads m s =
      (some (.ok (), m), s.note (.wrote (echoOf q (pts line)))) := by
    rw [echoLine, Run.reads_bind_of_ok known, if_neg (by simp [opened])]
    rfl
  rw [handOut, Run.reads_bind_of_ok echoed]
  rfl

theorem reads_handOut_closed (q : Points) (line : String) (closed : m.closed = true) :
    ∃ e m', (handOut q line).reads m s = (some (.error e, m'), s) := by
  have known : (Run.reading (·.closed)).reads m s = (some (.ok m.closed, m), s) := rfl
  obtain ⟨e, m', raised⟩ := Run.reads_raise "ValueError" "I/O operation on closed file" m s
  have told : (closedStream false).reads m s = (some (.error e, m'), s) := raised Value
  have echoed : (echoLine q (pts line)).reads m s = (some (.error e, m'), s) := by
    rw [echoLine, Run.reads_bind_of_ok known, if_pos closed, Run.reads_bind_of_error told]
  exact ⟨e, m', Run.reads_bind_of_error echoed _⟩

/-- The prompt is put into words once more for the echo of a line that has been taken. -/
theorem reads_askUnder (said : (E.text prompt).reads m s = (some (.ok p, m₁), s₁))
    (legible : (Notice.text? p).isSome) (left : s₁.lines = line :: rest) :
    (E.askUnder prompt).reads m s = (E.formatted prompt [] >>= fun q => handOut q line).reads m₁
      ⟨s₁.deeds ++ [.took p line false], rest⟩ := by
  have asked : (Run.ask (.input p)).reads m₁ s₁ =
      (some (.ok (.text (pts line)), m₁), ⟨s₁.deeds ++ [.took p line false], rest⟩) := by
    rw [Run.reads_ask m₁ (q := .input p) legible, Ledger.ask_one (q := .input p) legible nofun left, left]
    simp [Question.taken, Question.reply, Question.prompt, Question.echoes]
  rw [askUnder, Run.reads_bind_of_ok said, Run.reads_bind_of_ok asked]
  rfl

theorem reads_askUnder_end (said : (E.text prompt).reads m s = (some (.ok p, m₁), s₁))
    (legible : (Notice.text? p).isSome) (left : s₁.lines = []) :
    (E.askUnder prompt).reads m s = (some (.ok (.str []), m₁), s₁) := by
  have asked : (Run.ask (.input p)).reads m₁ s₁ = (some (.ok (.value .null), m₁), s₁) := by
    rw [Run.reads_ask m₁ (q := .input p) legible, Ledger.ask_end (q := .input p) legible left, left]
    rfl
  rw [askUnder, Run.reads_bind_of_ok said, Run.reads_bind_of_ok asked]
  rfl

/-- What `input` comes to under a prompt, once that has been put into words. -/
structure InputsLine (E : Engine) (prompt : Value) (p : Points) (m : Machine) (s : Ledger)
    (run : Option (Except Abrupt Value × Machine) × Ledger) : Prop where
  /-- without a line the answer is empty -/
  ended : s.lines = [] → run = (some (.ok (.str []), m), s)
  /-- a line is taken; the program gets it, and its echo is put out, exactly if the prompt can be put into
  words once more and the output is open then -/
  given {line : String} {rest : List String} (left : s.lines = line :: rest) (v : Value) (m' : Machine)
    (s' : Ledger) : run = (some (.ok v, m'), s') ↔ ∃ q s₂,
      (E.formatted prompt []).reads m ⟨s.deeds ++ [.took p line false], rest⟩ = (some (.ok q, m'), s₂) ∧
        m'.closed = false ∧ v = .str (pts line) ∧ s' = s₂.note (.wrote (echoOf q (pts line)))

theorem inputsLine (said : (E.text prompt).reads m s = (some (.ok p, m₁), s₁))
    (legible : (Notice.text? p).isSome) :
    E.InputsLine prompt p m₁ s₁ ((E.askUnder prompt).reads m s) where
  ended := reads_askUnder_end said legible
  given {line rest} left v m' s' := by
    rw [reads_askUnder said legible left]
    rcases again : (E.formatted prompt []).reads m₁ ⟨s₁.deeds ++ [.took p line false], rest⟩ with
      ⟨_ | ⟨e | q, m₂⟩, s₂⟩
    · rw [Run.reads_bind_of_none again, again]
      simp
    · rw [Run.reads_bind_of_error again, again]
      simp
    · rw [Run.reads_bind_of_ok again, again]
      cases opened : m₂.closed with
      | false =>
        rw [reads_handOut q line opened]
        constructor
        · intro same
          cases same
          exact ⟨q, s₂, rfl, opened, rfl, rfl⟩
        · rintro ⟨_, _, same, -, rfl, rfl⟩
          cases same
          rfl
      | true =>
        obtain ⟨e, m₃, lost⟩ := reads_handOut_closed (s := s₂) q line opened
        rw [lost]
        constructor
        · intro same
          cases same
        · rintro ⟨_, _, same, open_, -⟩
          cases same
          rw [opened] at open_
          cases open_

/-! ## Input from the stream -/

/-- Arguments that say how much is read; the host's lines are read whole whatever they say. -/
inductive Sizes : List Value → Named → Prop where
  | none : Sizes [] []
  | plain (v : Value) : Sizes [v] []
  | named (v : Value) : Sizes [] [("size", v)]

/-- Where the output has been closed there is nowhere to echo a line: it is taken, and lost. -/
def lostLine (nothing : α) (m : Machine) (s : Ledger) : Option (Except Abrupt α × Machine) × Ledger :=
  match s.lines with
  | [] => (some (.ok nothing, m), s)
  | line :: rest =>
    (Run.raise "ValueError" "I/O operation on closed file").reads m ⟨s.deeds ++ [.took [] line false], rest⟩

theorem reads_hostLines (opened : m.closed = false) {q : Question} (asked : s.ask q = (some (.text p), s₁)) :
    (hostLines m.serial q).reads m s = (some (.ok (.str p), m), s₁) := by
  have own : (Run.reading (·.serial)).reads m s = (some (.ok m.serial, m), s) := rfl
  have known : (Run.reading (·.closed)).reads m s = (some (.ok m.closed, m), s) := rfl
  have heard : (Run.ask q).reads m s = (some (.ok (.text p), m), s₁) := Play.handle_ask asked _
  rw [hostLines, Run.reads_bind_of_ok own, if_neg (by simp), Run.reads_bind_of_ok known,
    if_neg (by simp [opened]), Run.reads_bind_of_ok heard]
  rfl

theorem reads_hostLines_closed (closed : m.closed = true) (q : Question) :
    (hostLines m.serial q).reads m s = lostLine (.str []) m s := by
  have own : (Run.reading (·.serial)).reads m s = (some (.ok m.serial, m), s) := rfl
  have known : (Run.reading (·.closed)).reads m s = (some (.ok m.closed, m), s) := rfl
  have asked := Run.reads_ask (s := s) m (q := .silent) (by decide)
  rw [hostLines, Run.reads_bind_of_ok own, if_neg (by simp), Run.reads_bind_of_ok known,
    if_pos closed, lostLines, Run.reads_bind_of_ok asked, lostLine]
  cases left : s.lines with
  | nil =>
    rw [Ledger.ask_end (q := .silent) (by decide) left]
    rfl
  | cons line rest =>
    obtain ⟨c, p, some_⟩ : ∃ c p, [line].flatMap (fun line => pts line ++ [10]) = c :: p :=
      List.exists_cons_of_ne_nil (by simp)
    have taken : Question.silent.reply (Question.silent.taken (line :: rest)) = .text (c :: p) :=
      congrArg Answer.text some_
    rw [Ledger.ask_one (q := .silent) (by decide) nofun left, taken]
    rfl

theorem reads_streamMethod_readline (at_ : Nat) (sizes : Sizes args named) :
    (E.streamMethod at_ (.host m.serial) "readline" args named).reads m s =
      (hostLines m.serial .line).reads m s := by
  cases sizes <;> rfl

theorem reads_streamMethod_read (at_ : Nat) (sizes : Sizes args named) :
    (E.streamMethod at_ (.host m.serial) "read" args named).reads m s =
      (hostLines m.serial .all).reads m s := by
  cases sizes <;> rfl

/-- The item that a line is; none of the text after the last line. -/
def itemOf (v : Value) : Run (Option Value) :=
  match v with
  | .str [] => return none
  | v => return some v

theorem reads_itemOf_ended (line : String) :
    (itemOf (.str (Ledger.ended (some line)))).reads m s = (some (.ok (some (.str (pts line ++ [10]))), m), s) := by
  dsimp only [Ledger.ended, Option.map_some, Option.getD_some]
  cases pts line <;> rfl

theorem reads_nextRule {at_ : Nat} (stream : m.obj at_ = .stream (.host m.serial)) :
    (E.nextRule (.ref at_)).reads m s = (hostLines m.serial .line >>= itemOf).reads m s := by
  have here : (Run.obj at_).reads m s = (some (.ok (.stream (.host m.serial)), m), s) :=
    congrArg (fun o => (some (Except.ok o, m), s)) stream
  rw [nextRule, Run.reads_bind_of_ok here]
  rfl

/-- What the four ways to read come to. -/
structure ReadsLines (E : Engine) (m : Machine) (s : Ledger) : Prop where
  /-- a line without its end, under a prompt that the host can read -/
  input {args : List Value} {named : Named} {prompt : Value} (prompts : Prompts args named prompt)
    {p : Points} {m₁ : Machine} {s₁ : Ledger} (said : (E.text prompt).reads m s = (some (.ok p, m₁), s₁))
    (legible : (Notice.text? p).isSome) :
    E.InputsLine prompt p m₁ s₁ ((E.input m.serial args named).reads m s)
  /-- a line with its end; empty if there is none -/
  readline (at_ : Nat) {args : List Value} {named : Named} (sizes : Sizes args named) :
    (E.streamMethod at_ (.host m.serial) "readline" args named).reads m s =
      if m.closed then lostLine (.str []) m s else (some (.ok (.str (Ledger.ended s.pull.1)), m), s.pull.2)
  /-- all lines with their ends -/
  read (at_ : Nat) {args : List Value} {named : Named} (sizes : Sizes args named) :
    (E.streamMethod at_ (.host m.serial) "read" args named).reads m s =
      if m.closed then lostLine (.str []) m s
      else (some (.ok (.str (s.lines.flatMap fun line => pts line ++ [10])), m),
        ⟨s.deeds ++ s.lines.map (.took [] · true), []⟩)
  /-- the next line with its end; none at the end -/
  next {at_ : Nat} (stream : m.obj at_ = .stream (.host m.serial)) :
    (E.nextRule (.ref at_)).reads m s =
      if m.closed then lostLine none m s
      else (some (.ok (s.pull.1.map fun line => .str (pts line ++ [10])), m), s.pull.2)

theorem readsLines (E : Engine) (m : Machine) (s : Ledger) : E.ReadsLines m s where
  input {_ _ _} prompts {_ _ _} said legible := by
    rw [reads_input prompts]
    exact inputsLine said legible
  readline at_ {_ _} sizes := by
    rw [reads_streamMethod_readline at_ sizes]
    split
    next closed => exact reads_hostLines_closed closed .line
    next opened =>
      exact reads_hostLines (by simpa using opened) s.ask_line
  read at_ {_ _} sizes := by
    rw [reads_streamMethod_read at_ sizes]
    split
    next closed => exact reads_hostLines_closed closed .all
    next opened =>
      exact reads_hostLines (by simpa using opened) s.ask_all
  next {at_} stream := by
    rw [reads_nextRule stream]
    split
    next closed =>
      have lost := reads_hostLines_closed (s := s) closed .line
      rw [lostLine] at lost ⊢
      cases left : s.lines with
      | nil =>
        rw [left] at lost
        rw [Run.reads_bind_of_ok lost]
        rfl
      | cons line rest =>
        rw [left] at lost
        rw [Run.reads_bind_of_error lost]
        rfl
    next opened =>
      rw [Run.reads_bind_of_ok (reads_hostLines (by simpa using opened) s.ask_line)]
      cases s.pull.1 with
      | none => rfl
      | some line => exact reads_itemOf_ended line

end Engine

end Snippet.Guest
