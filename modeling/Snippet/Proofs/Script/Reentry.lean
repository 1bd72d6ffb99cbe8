import Snippet.Proofs.Script.Verdicts

/-!
# Host calls inside host calls

To convert an argument of a host call, the final value of a script or the trace of an exception can run
the script's own code, and that can call the host again. A `Behaviour` keeps this nesting: the
conversions of a call are a behaviour of their own. `enact` carries a behaviour out on cells that are
lent while they are written to, so that a call that came in between would find them lent. None does
(`enact_idle`), and what comes of it is what comes of the play in which the calls stand in the order in
which they are completed; `account` says what they are.
-/

namespace Snippet.Script

/-! ## What calls read -/

namespace Deed

/-- What a call has read from the input lines, if it was to read one. -/
def read? : Deed → Option (Option String)
  | said .. => none
  | handed _ line => some (some line)
  | refused _ => some none

/-- What calls have read from the input lines, one after another. -/
def reads (deeds : List Deed) : List (Option String) := deeds.filterMap read?

/-- How many calls were to read a line. -/
def prompts (deeds : List Deed) : Nat := (reads deeds).length

/-- A call that has asked for a line under the label and got that answer. -/
def asked (label : String) : Option String → Deed
  | some line => handed label line
  | none => refused label

@[simp] theorem reads_nil : reads [] = [] := rfl

@[simp] theorem reads_append (deeds more : List Deed) :
    reads (deeds ++ more) = reads deeds ++ reads more := List.filterMap_append

@[simp] theorem reads_said (channel : Channel) (text : String) (deeds : List Deed) :
    reads (said channel text :: deeds) = reads deeds := rfl

@[simp] theorem reads_asked (label : String) (answer : Option String) (deeds : List Deed) :
    reads (asked label answer :: deeds) = answer :: reads deeds := by
  cases answer <;> rfl

@[simp] theorem shown_nil : shown [] = "" := rfl

@[simp] theorem shown_cons (d : Deed) (deeds : List Deed) :
    shown (d :: deeds) = d.line ++ shown deeds := String.join_cons

@[simp] theorem shown_append (deeds more : List Deed) :
    shown (deeds ++ more) = shown deeds ++ shown more := by
  induction deeds with
  | nil => rw [List.nil_append, shown_nil, String.empty_append]
  | cons d deeds ih => rw [List.cons_append, shown_cons, shown_cons, ih, String.append_assoc]

end Deed

/-! ## Behaviours -/

/-- What converting a value came to: a text, or an exception, which leaves the display form. -/
inductive Conversion where
  | text (s : String)
  | threw (display : String)

/-- What is shown of a value that was converted. -/
def Conversion.shown : Conversion → String
  | text s => s
  | threw display => display

/-- What a script does, as a tree: the arguments of a call are converted by a behaviour of their own,
which can call the host in turn. -/
inductive Behaviour : Type → Type 1 where
  | done {α : Type} (a : α) : Behaviour α
  | console {α : Type} (method : ConsoleMethod) (parts : Behaviour (List Conversion))
      (next : Behaviour α) : Behaviour α
  | prompt {α : Type} (label : Behaviour Conversion) (next : Option String → Behaviour α) : Behaviour α

/-- The text of a line that is made of converted arguments. -/
def textOf (parts : List Conversion) : String := Text.join " " (parts.map Conversion.shown)

namespace Behaviour

variable {α β : Type}

/-- One behaviour after another. -/
def bind : Behaviour α → (α → Behaviour β) → Behaviour β
  | done a, f => f a
  | console method parts next, f => console method parts (next.bind f)
  | prompt label next, f => prompt label fun line => (next line).bind f

/-- The play in which every call stands where it is completed. -/
def play : {α : Type} → Behaviour α → Play α
  | _, done a => .done a
  | _, console method parts next =>
    parts.play.bind fun parts => .say method.channel (textOf parts) fun _ => next.play
  | _, prompt label next => label.play.bind fun label => .ask label.shown fun line => (next line).play

/-- What a behaviour comes to and the calls it completes, in that order, when `n` lines were asked for
before: the calls of its conversions first, then the call itself, then all others. -/
def account (lines : List String) : {α : Type} → Behaviour α → Nat → α × List Deed
  | _, done a, _ => (a, [])
  | _, console method parts next, n =>
    let (parts, inner) := parts.account lines n
    let (a, later) := next.account lines (n + Deed.prompts inner)
    (a, inner ++ .said method.channel (textOf parts) :: later)
  | _, prompt label next, n =>
    let (label, inner) := label.account lines n
    let answer := lines[n + Deed.prompts inner]?
    let (a, later) := (next answer).account lines (n + Deed.prompts inner + 1)
    (a, inner ++ .asked label.shown answer :: later)

end Behaviour

/-! ## Cells -/

/-- What was found lent. -/
inductive Lent where
  | capture
  | cursor
  deriving Repr, DecidableEq

/-- A part of the host that is lent to who changes it. -/
structure Cell (α : Type) where
  held : α
  lent : Bool
  deriving Repr, DecidableEq

/-- The parts of the host that calls change. -/
structure Cells where
  capture : Cell Capture
  cursor : Cell LineCursor
  deriving Repr, DecidableEq

/-- The parts of a host while none is lent. -/
def Cells.idle (h : Play.Host) : Cells := ⟨⟨h.capture, false⟩, ⟨h.cursor, false⟩⟩

/-- A computation on the parts of the host, which fails where one is lent already. -/
abbrev Hosted (α : Type) : Type := StateT Cells (Except Lent) α

namespace Hosted

def lendCapture : Hosted Capture := fun cells =>
  if cells.capture.lent then .error .capture
  else .ok (cells.capture.held, { cells with capture.lent := true })

def returnCapture (capture : Capture) : Hosted Unit := fun cells =>
  .ok ((), { cells with capture := ⟨capture, false⟩ })

def lendCursor : Hosted LineCursor := fun cells =>
  if cells.cursor.lent then .error .cursor
  else .ok (cells.cursor.held, { cells with cursor.lent := true })

def returnCursor (cursor : LineCursor) : Hosted Unit := fun cells =>
  .ok ((), { cells with cursor := ⟨cursor, false⟩ })

/-- A call of the console: its arguments are converted before the capture is lent. -/
def console (method : ConsoleMethod) (parts : Hosted (List Conversion)) : Hosted Unit := do
  let parts ← parts
  let capture ← lendCapture
  returnCapture (capture.push method.channel (textOf parts))

/-- The next line of the cursor. -/
def nextLine : Hosted (Option String) := do
  let cursor ← lendCursor
  returnCursor cursor.next.2
  return cursor.next.1

/-- A call for input: its label is converted before the cursor is lent, and the cursor is given back
before the capture is lent. -/
def prompt (label : Hosted Conversion) : Hosted (Option String) := do
  let label ← label
  match ← nextLine with
  | none => return none
  | some line =>
    let capture ← lendCapture
    returnCapture (capture.push .input (label.shown ++ line))
    return some line

/-- The capture is taken out of its cell. -/
def takeCapture : Hosted Capture := do
  let capture ← lendCapture
  returnCapture .empty
  return capture

/-- How many lines were handed out. -/
def position : Hosted Nat := do
  let cursor ← lendCursor
  returnCursor cursor
  return cursor.position

end Hosted

/-- A behaviour carried out on the parts of the host. -/
def Behaviour.enact : {α : Type} → Behaviour α → Hosted α
  | _, done a => return a
  | _, console method parts next => do
    Hosted.console method parts.enact
    next.enact
  | _, prompt label next => do
    let answer ← Hosted.prompt label.enact
    (next answer).enact

/-! ## No call finds the host lent -/

namespace Hosted

variable {α β : Type} {r : Hosted α} {cells cells' : Cells} {a : α} {h h' : Play.Host}

theorem bind_of_ok (f : α → Hosted β) (ran : r cells = .ok (a, cells')) :
    (r >>= f) cells = f a cells' := by
  have opened : (r >>= f) cells = (r cells).bind fun p => f p.1 p.2 := rfl
  rw [opened, ran]
  rfl

theorem console_idle {parts : Hosted (List Conversion)} {converted : List Conversion}
    (method : ConsoleMethod) (ran : parts (.idle h) = .ok (converted, .idle h')) :
    console method parts (.idle h) =
      .ok ((), .idle (h'.say method.channel (textOf converted))) := bind_of_ok _ ran

theorem nextLine_idle (h : Play.Host) :
    nextLine (.idle h) = .ok (h.cursor.next.1, .idle { h with cursor := h.cursor.next.2 }) := rfl

theorem prompt_idle {label : Hosted Conversion} {converted : Conversion}
    (ran : label (.idle h) = .ok (converted, .idle h')) :
    prompt label (.idle h) =
      .ok ((h'.ask converted.shown).1, .idle (h'.ask converted.shown).2) := by
  refine (bind_of_ok _ ran).trans ((bind_of_ok _ (nextLine_idle h')).trans ?_)
  rw [Play.Host.ask]
  rcases h'.cursor.next with ⟨_ | line, cursor⟩ <;> rfl

end Hosted

namespace Behaviour

variable {α β : Type}

/-- Carried out on a host of which nothing is lent, a behaviour leaves it so, and does what its play
does. -/
theorem enact_idle (b : Behaviour α) (h : Play.Host) :
    b.enact (.idle h) = .ok ((b.play.run h).1, .idle (b.play.run h).2) := by
  induction b generalizing h with
  | done a => rfl
  | console method parts next ihParts ihNext =>
    rw [enact, play, Play.run_bind]
    exact (Hosted.bind_of_ok _ (Hosted.console_idle method (ihParts h))).trans (ihNext _)
  | prompt label next ihLabel ihNext =>
    rw [enact, play, Play.run_bind]
    exact (Hosted.bind_of_ok _ (Hosted.prompt_idle (ihLabel h))).trans (ihNext _ _)

/-- A call that came while the capture is lent would not go through. -/
example : (Hosted.lendCapture >>= fun _ =>
    (console .log (.done []) (.done ())).enact) (.idle (.ofLines [])) = .error .capture := rfl

theorem run_bind (b : Behaviour α) (f : α → Behaviour β) (h : Play.Host) :
    (b.bind f).play.run h = (f (b.play.run h).1).play.run (b.play.run h).2 := by
  induction b generalizing h with
  | done a => rfl
  | console method parts next ihParts ihNext =>
    rw [bind, play, play, Play.run_bind, Play.run_bind]
    exact ihNext f _
  | prompt label next ihLabel ihNext =>
    rw [bind, play, play, Play.run_bind, Play.run_bind]
    exact ihNext _ f _

end Behaviour

/-! ## The calls in the order in which they are completed -/

/-- The host that has captured a text while `n` lines were asked for. -/
def Play.Host.asked (lines : List String) (text : String) (n : Nat) : Play.Host :=
  ⟨⟨text⟩, ⟨lines, min n lines.length⟩⟩

theorem Play.Host.say_asked (lines : List String) (text : String) (n : Nat) (channel : Channel)
    (said : String) :
    (Host.asked lines text n).say channel said =
      Host.asked lines (text ++ channel.line said) n := rfl

theorem Play.Host.ask_asked (lines : List String) (text label : String) (n : Nat) :
    (Host.asked lines text n).ask label =
      (lines[n]?, Host.asked lines (text ++ (Deed.asked label lines[n]?).line) (n + 1)) := by
  rcases Nat.lt_or_ge n lines.length with before | past
  · have here : lines[min n lines.length]? = some lines[n] := by
      rw [Nat.min_eq_left (Nat.le_of_lt before), List.getElem?_eq_getElem before]
    have moved : min n lines.length + 1 = min (n + 1) lines.length := by omega
    simp only [Host.asked, Host.ask, LineCursor.next, here, List.getElem?_eq_getElem before, moved]
    rfl
  · have here : lines[min n lines.length]? = none := by
      rw [Nat.min_eq_right past, List.getElem?_eq_none (Nat.le_refl _)]
    have stays : min n lines.length = min (n + 1) lines.length := by omega
    simp only [Host.asked, Host.ask, LineCursor.next, here, List.getElem?_eq_none past]
    rw [stays, Deed.asked, Deed.line, String.append_empty]

namespace Behaviour

variable {α β : Type}

/-- The play of a behaviour comes to what the account says, and puts out what the calls put out. -/
theorem run_play (b : Behaviour α) (lines : List String) (text : String) (n : Nat) :
    b.play.run (.asked lines text n) =
      ((b.account lines n).1, .asked lines (text ++ Deed.shown (b.account lines n).2)
        (n + Deed.prompts (b.account lines n).2)) := by
  induction b generalizing text n with
  | done a => simp [play, Play.run, account, Deed.prompts]
  | console method parts next ihParts ihNext =>
    rw [play, Play.run_bind, ihParts, Play.run, Play.Host.say_asked]
    refine (ihNext _ _).trans ?_
    simp [account, Deed.prompts, Deed.line, String.append_assoc, Nat.add_assoc]
  | prompt label next ihLabel ihNext =>
    rw [play, Play.run_bind, ihLabel, Play.run, Play.Host.ask_asked]
    refine (ihNext _ _ _).trans ?_
    simp [account, Deed.prompts, String.append_assoc, Nat.add_assoc, Nat.add_comm 1]

/-- Calls for input get the lines one after another, and nothing once there are no more. -/
theorem reads_account (b : Behaviour α) (lines : List String) (n : Nat) :
    Deed.reads (b.account lines n).2 =
      (List.range' n (Deed.prompts (b.account lines n).2)).map (lines[·]?) := by
  induction b generalizing n with
  | done a => rfl
  | console method parts next ihParts ihNext =>
    rw [account]
    simp only [Deed.prompts, Deed.reads_append, Deed.reads_said, List.length_append]
    rw [← List.range'_append_1, List.map_append]
    exact congrArg₂ _ (ihParts n) (ihNext _)
  | prompt label next ihLabel ihNext =>
    rw [account]
    simp only [Deed.prompts, Deed.reads_append, Deed.reads_asked, List.length_append,
      List.length_cons]
    rw [← List.range'_append_1, List.map_append, List.range'_succ, List.map_cons]
    exact congrArg₂ _ (ihLabel n) (congrArg _ (ihNext _ _))

/-- A warning while the label is converted comes before the line that is asked for. -/
example : (prompt (console .warn (.done [.text "w"]) (.done (.text "n? "))) done).account ["a"] 0 =
    (some "a", [.said .warning "w", .handed "n? " "a"]) := rfl

end Behaviour

/-! ## Whole scripts -/

/-- How a script comes to its end, up to what is converted then: a final value, or the message and the
trace of an exception. -/
inductive Close : Type 1 where
  | undefined
  | value (shown : Behaviour Conversion)
  | threw (message : Behaviour String) (trace : Behaviour (Option Conversion))

/-- A script as its host sees it: what it does, and how it ends then. -/
structure Performance where
  State : Type
  body : Behaviour State
  close : State → Close

/-- What is converted at the end, up to the verdict. -/
def Close.verdict : Close → Behaviour Verdict
  | undefined => .done (.finished none)
  | value shown => shown.bind fun text => .done (.finished (some text.shown))
  | threw message trace => message.bind fun message => trace.bind fun trace =>
    .done (.failed ((ErrorDetail.ofMessage message).withTrace (trace.map Conversion.shown)))

/-- A whole script, up to its verdict. -/
def Performance.behaviour (s : Performance) : Behaviour Verdict :=
  s.body.bind fun state => (s.close state).verdict

/-- The outcome with what is in the capture and the cursor once nothing is converted any more. -/
def Hosted.succeed (shown : Option String) : Hosted Outcome := do
  let mut capture ← takeCapture
  if let some text := shown then
    capture := capture.push .result text
  return { capture.success (← position) with returnPreview := shown }

/-- The end of a script carried out on the parts of its host: all that is left to be converted is
converted before the capture is taken out. -/
def Close.evaluate : Close → Hosted Outcome
  | undefined => Hosted.succeed none
  | value shown => do
    let text ← shown.enact
    Hosted.succeed (some text.shown)
  | threw message trace => do
    let message ← message.enact
    let trace ← trace.enact
    let detail := (ErrorDetail.ofMessage message).withTrace (trace.map Conversion.shown)
    let capture ← Hosted.takeCapture
    return capture.runtimeError detail (← Hosted.position)

/-- A script carried out on the parts of its host, up to its outcome. -/
def Performance.evaluate (s : Performance) : Hosted Outcome := do
  (s.close (← s.body.enact)).evaluate

theorem Close.evaluate_idle (c : Close) (h : Play.Host) :
    ∃ outcome cells, c.evaluate (.idle h) = .ok (outcome, cells) ∧
      (c.verdict.play.run h).1.ending (c.verdict.play.run h).2 = .done outcome := by
  cases c with
  | undefined => exact ⟨_, _, rfl, rfl⟩
  | value shown =>
    refine ⟨_, _, (Hosted.bind_of_ok _ (shown.enact_idle h)).trans rfl, ?_⟩
    rw [verdict, Behaviour.run_bind]
    rfl
  | threw message trace =>
    refine ⟨_, _, (Hosted.bind_of_ok _ (message.enact_idle h)).trans
      ((Hosted.bind_of_ok _ (trace.enact_idle _)).trans rfl), ?_⟩
    rw [verdict, Behaviour.run_bind, Behaviour.run_bind]
    rfl

/-- The line that a verdict adds to what was put out. -/
def Verdict.returnLine : Verdict → String
  | finished (some text) => Channel.result.line text
  | _ => ""

theorem Verdict.of_ending_done {v : Verdict} {h : Play.Host} {o : Outcome}
    (ended : v.ending h = .done o) :
    o.output = h.capture.text ++ v.returnLine ∧ o.stdinConsumed = h.cursor.position := by
  cases v with
  | finished shown =>
    cases shown with
    | none =>
      cases ended
      exact ⟨String.append_empty.symm, rfl⟩
    | some text =>
      cases ended
      exact ⟨rfl, rfl⟩
  | failed detail =>
    cases ended
    exact ⟨String.append_empty.symm, rfl⟩
  | stopped cause => cases ended

/-! ## The calls of the engine -/

namespace Play

variable {α β : Type}

theorem drop_handedOut (label line : String) (deeds : List Deed) (input : List String) :
    (line :: input).drop (Deed.handedOut (.handed label line :: deeds)) =
      input.drop (Deed.handedOut deeds) := by
  rw [Deed.handedOut, List.countP_cons_of_pos rfl, List.drop_succ_cons, Deed.handedOut]

theorem comesTo_bind (p : Play α) (f : α → Play β) (input : List String) :
    (p.bind f).comesTo input =
      (f (p.comesTo input)).comesTo (input.drop (Deed.handedOut (p.deeds input))) := by
  induction p generalizing input with
  | done a => rfl
  | say channel text next ih => exact ih () input
  | ask label next ih =>
    cases input with
    | nil => exact ih none []
    | cons line input =>
      rw [deeds, drop_handedOut]
      exact ih (some line) input

theorem deeds_bind (p : Play α) (f : α → Play β) (input : List String) :
    (p.bind f).deeds input = p.deeds input ++
      (f (p.comesTo input)).deeds (input.drop (Deed.handedOut (p.deeds input))) := by
  induction p generalizing input with
  | done a => rfl
  | say channel text next ih => exact congrArg _ (ih () input)
  | ask label next ih =>
    cases input with
    | nil => exact congrArg _ (ih none [])
    | cons line input =>
      rw [deeds, drop_handedOut]
      exact congrArg _ (ih (some line) input)

end Play

/-- A call of the engine, from a machine and with these lines left: after what converting its arguments
has done it completes with its own deed and this answer; it ends in no other way, unless the engine
stops while it converts. The deed and the answer depend on the text that was converted and on the lines
that are left then. -/
def Completes (converting : Run String) (call : Run Value) (own : String → List String → Deed)
    (answer : List String → Value) (m : Machine) (input : List String) : Prop :=
  let inner := (converting m).deeds input
  let left := input.drop (Deed.handedOut inner)
  match (converting m).comesTo input with
  | .ok (.ok text, m') =>
    (call m).comesTo input = .ok (.ok (answer left), m') ∧
      (call m).deeds input = inner ++ [own text left]
  | .ok (.error _, _) => False
  | .error cause => (call m).comesTo input = .error cause ∧ (call m).deeds input = inner

/-- A call that first converts and then does one thing completes. -/
theorem completes_bind {converting : Run String} {tail : String → Run Value}
    {own : String → List String → Deed} {answer : List String → Value} (settles : converting.Settles)
    (single : ∀ text m left, (tail text m).deeds left = [own text left] ∧
      (tail text m).comesTo left = .ok (.ok (answer left), m)) (m : Machine) (input : List String) :
    Completes converting (converting >>= tail) own answer m input := by
  have ends := (settles m).comesTo input
  unfold Completes
  rw [Run.bind_apply, Play.comesTo_bind, Play.deeds_bind]
  rcases result : (converting m).comesTo input with cause | ⟨e | text, m'⟩
  · exact ⟨rfl, List.append_nil _⟩
  · exact ends e m' result
  · obtain ⟨deeds, ended⟩ := single text m' (input.drop (Deed.handedOut ((converting m).deeds input)))
    exact ⟨ended, congrArg _ deeds⟩

namespace Engine

open Run (Settles)

theorem settles_mapM {α β : Type} {f : α → Run β} (settles : ∀ a, Settles (f a)) (as : List α) :
    Settles (as.mapM f) := by
  have loop : ∀ done, Settles (List.mapM.loop f as done) := by
    induction as with
    | nil => exact fun done => .pure _
    | cons a as ih => exact fun done => .bind (settles a) fun b => ih _
  exact loop []

theorem settles_consoleText (E : Engine) (method : ConsoleMethod) (args : List Value) :
    Settles (E.consoleText method args) := by
  refine .bind (settles_mapM (fun v => ?_) args) fun parts => .pure _
  split
  next => exact E.settles_rendered v
  next => exact E.settles_shownText v

/-- The label of a call for input. -/
def labelText (E : Engine) : List Value → Run String
  | v :: _ => if v.isAbsent then pure "" else E.shownText v
  | [] => pure ""

theorem settles_labelText (E : Engine) (args : List Value) : Settles (E.labelText args) := by
  cases args with
  | nil => exact .pure _
  | cons v args =>
    rw [labelText]
    split
    next => exact .pure _
    next => exact E.settles_shownText v

theorem completes_console (E : Engine) (method : ConsoleMethod) (making : Bool) (receiver : Value)
    (args : List Value) (m : Machine) (input : List String) :
    Completes (E.consoleText method args) (E.callNative (.console method) making receiver args)
      (fun text _ => .said method.channel text) (fun _ => .undefined) m input :=
  completes_bind (E.settles_consoleText method args) (fun _ _ _ => ⟨rfl, rfl⟩) m input

theorem completes_prompt (E : Engine) (making : Bool) (receiver : Value) (args : List Value)
    (m : Machine) (input : List String) :
    Completes (E.labelText args) (E.callNative .prompt making receiver args)
      (fun label left => .asked label left.head?)
      (fun left => left.head?.elim .null Value.text) m input := by
  have opened : E.callNative .prompt making receiver args = E.labelText args >>= fun label => do
      match ← Run.ask label with
      | some line => return Value.text line
      | none => return .null := by
    cases args with
    | nil => rfl
    | cons v args =>
      dsimp only [callNative, promptCall, labelText]
      split <;> rfl
  rw [opened]
  refine completes_bind (E.settles_labelText args) (fun label m left => ?_) m input
  cases left <;> exact ⟨rfl, rfl⟩

end Engine

/-! ## The whole run -/

/-- Whatever a script does, and however deep its host calls are inside one another: none of them finds
the host lent, and the outcome is that of its play. It has put out the line of each completed call in
the order in which they were completed, and then the value of the script, if it came to one; its calls
for input have read the lines one after another and then nothing, and the lines that were there are
counted. On any engine the calls complete so, after what their conversions have done, and raise
nothing. -/
theorem host_reentrant (s : Performance) (lines : List String) (E : Engine) (making : Bool)
    (receiver : Value) (args : List Value) (m : Machine) :
    let (verdict, deeds) := s.behaviour.account lines 0
    (∃ outcome cells, s.evaluate (.idle (.ofLines lines)) = .ok (outcome, cells) ∧
      s.behaviour.play.ending lines = .done outcome ∧
      outcome.output = Deed.shown deeds ++ verdict.returnLine ∧
      Deed.reads deeds = (List.range (Deed.prompts deeds)).map (lines[·]?) ∧
      outcome.stdinConsumed = min (Deed.prompts deeds) lines.length) ∧
    (∀ method, Completes (E.consoleText method args)
      (E.callNative (.console method) making receiver args)
      (fun text _ => .said method.channel text) (fun _ => .undefined) m lines) ∧
    Completes (E.labelText args) (E.callNative .prompt making receiver args)
      (fun label left => .asked label left.head?)
      (fun left => left.head?.elim .null Value.text) m lines := by
  have first : Play.Host.ofLines lines = .asked lines "" 0 := by
    rw [Play.Host.asked, Nat.zero_min]
    rfl
  obtain ⟨outcome, cells, ran, ended⟩ := (s.close (s.body.play.run (.ofLines lines)).1).evaluate_idle
    (s.body.play.run (.ofLines lines)).2
  have whole : (s.behaviour.play.run (.ofLines lines)).1.ending
      (s.behaviour.play.run (.ofLines lines)).2 = .done outcome := by
    rw [Performance.behaviour, Behaviour.run_bind]
    exact ended
  have played := s.behaviour.run_play lines "" 0
  have reads := s.behaviour.reads_account lines 0
  have evaluated : s.evaluate (.idle (.ofLines lines)) = .ok (outcome, cells) :=
    (Hosted.bind_of_ok _ (s.body.enact_idle _)).trans ran
  refine ⟨⟨outcome, cells, evaluated, whole, ?_⟩,
    fun method => E.completes_console method making receiver args m lines,
    E.completes_prompt making receiver args m lines⟩
  rw [first, played] at whole
  obtain ⟨output, consumed⟩ := Verdict.of_ending_done whole
  refine ⟨?_, ?_, ?_⟩
  · rw [output, Play.Host.asked, String.empty_append]
  · rw [reads, List.range_eq_range']
  · rw [consumed, Play.Host.asked, Nat.zero_add]

end Snippet.Script
