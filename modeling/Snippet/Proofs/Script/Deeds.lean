import Mathlib.Tactic.Common
import Snippet.Dispatch

/-!
# What a script has put out when it ends

The host calls that a script completes are read off its play, without a host: lines said on a channel,
and input lines asked for. `Play.run_eq` says that a host that starts with nothing ends up with just
the lines of these calls and with its cursor behind the input lines handed out. The result of the
script keeps both as long as the engine does not stop (`result_keeps_iff`). The engine stops where an
object to be shown holds an undefined value (`rendered_of_holdsUndefined`), and then all is lost.
-/

namespace Snippet.Script

/-- A call of the host that was completed. -/
inductive Deed where
  | said (channel : Channel) (text : String)
  /-- a line of input was handed out and echoed under the label -/
  | handed (label line : String)
  /-- there was no line of input left -/
  | refused (label : String)
  deriving Repr, DecidableEq

namespace Deed

/-- What the call puts out. -/
def line : Deed → String
  | said channel text => channel.line text
  | handed label line => Channel.input.line (label ++ line)
  | refused _ => ""

/-- Did the call hand out a line of input? -/
def isHanded : Deed → Bool
  | handed .. => true
  | _ => false

/-- What calls put out, one after another. -/
def shown (deeds : List Deed) : String := String.join (deeds.map line)

/-- How many lines of input calls handed out. -/
def handedOut (deeds : List Deed) : Nat := deeds.countP isHanded

theorem channel_line_ne_empty (channel : Channel) (text : String) : channel.line text ≠ "" := by
  intro empty
  have ends := (String.append_eq_empty_iff.mp empty).2
  exact absurd ends (by decide)

theorem line_eq_empty_iff (d : Deed) : d.line = "" ↔ ∃ label, d = refused label := by
  constructor
  · intro empty
    cases d with
    | said channel text => exact absurd empty (channel_line_ne_empty channel text)
    | handed label line => exact absurd empty (channel_line_ne_empty .input (label ++ line))
    | refused label => exact ⟨label, rfl⟩
  · rintro ⟨label, rfl⟩
    rfl

/-- Nothing was put out exactly if every call asked for a line that was not there. -/
theorem shown_eq_empty_iff (deeds : List Deed) :
    shown deeds = "" ↔ ∀ d ∈ deeds, ∃ label, d = refused label := by
  unfold shown
  induction deeds with
  | nil => simp
  | cons d deeds ih =>
    rw [List.map_cons, String.join_cons, String.append_eq_empty_iff, ih, line_eq_empty_iff,
      List.forall_mem_cons]

theorem line_ends (d : Deed) : d.line = "" ∨ ∃ front, d.line = front ++ "\n" := by
  cases d with
  | said channel text => exact .inr ⟨channel.marker ++ text, rfl⟩
  | handed label line => exact .inr ⟨Channel.input.marker ++ (label ++ line), rfl⟩
  | refused label => exact .inl rfl

/-- What is put out is whole lines. -/
theorem shown_ends (deeds : List Deed) : shown deeds = "" ∨ ∃ front, shown deeds = front ++ "\n" := by
  unfold shown
  induction deeds with
  | nil => exact .inl rfl
  | cons d deeds ih =>
    rw [List.map_cons, String.join_cons]
    rcases ih with none | ⟨front, later⟩
    · rw [none, String.append_empty]
      exact d.line_ends
    · exact .inr ⟨d.line ++ front, by rw [later, String.append_assoc]⟩

theorem handedOut_of_refused {deeds : List Deed} (refused : ∀ d ∈ deeds, ∃ label, d = .refused label) :
    handedOut deeds = 0 := by
  apply List.countP_eq_zero.mpr
  intro d among
  obtain ⟨label, rfl⟩ := refused d among
  exact Bool.false_ne_true

end Deed

namespace Play

variable {α : Type}

/-- The calls that a play completes when these lines of input are left. -/
def deeds : Play α → List String → List Deed
  | done _, _ => []
  | say channel text next, input => .said channel text :: (next ()).deeds input
  | ask label next, [] => .refused label :: (next none).deeds []
  | ask label next, line :: input => .handed label line :: (next (some line)).deeds input

/-- What a play comes to when these lines of input are left. -/
def comesTo : Play α → List String → α
  | done a, _ => a
  | say _ _ next, input => (next ()).comesTo input
  | ask _ next, [] => (next none).comesTo []
  | ask _ next, line :: input => (next (some line)).comesTo input

/-- The host that has captured a text and handed out the lines in front of the others. -/
def Host.behind (text : String) (front input : List String) : Host :=
  ⟨⟨text⟩, ⟨front ++ input, front.length⟩⟩

theorem Host.ask_nil (text label : String) (front : List String) :
    (Host.behind text front []).ask label = (none, Host.behind text front []) := by
  have past : (front ++ [])[front.length]? = none := by
    rw [List.append_nil]
    exact List.getElem?_eq_none (Nat.le_refl _)
  simp only [Host.behind, Host.ask, LineCursor.next, past]

theorem Host.ask_cons (text label line : String) (front input : List String) :
    (Host.behind text front (line :: input)).ask label =
      (some line,
        Host.behind (text ++ Channel.input.line (label ++ line)) (front ++ [line]) input) := by
  have found : (front ++ line :: input)[front.length]? = some line := by
    rw [List.getElem?_append_right (Nat.le_refl _), Nat.sub_self]
    rfl
  simp only [Host.behind, Host.ask, LineCursor.next, found, Capture.push, List.length_append,
    List.length_singleton, List.append_assoc, List.singleton_append]

/-- The lines that calls have handed out stand in front, and the text is longer by what they put out. -/
theorem run_behind (p : Play α) (text : String) (front input : List String) :
    ∃ gone left, input = gone ++ left ∧ gone.length = Deed.handedOut (p.deeds input) ∧
      p.run (Host.behind text front input) =
        (p.comesTo input,
          Host.behind (text ++ Deed.shown (p.deeds input)) (front ++ gone) left) := by
  -- a call moves a line from what is left to the front, so both change along the play
  induction p generalizing text front input with
  | done a => exact ⟨[], input, rfl, rfl, by simp [run, comesTo, deeds, Deed.shown]⟩
  | say channel line next ih =>
    obtain ⟨gone, left, split, count, ran⟩ := ih () (text ++ channel.line line) front input
    refine ⟨gone, left, split, count, ?_⟩
    have first : (Host.behind text front input).say channel line =
        Host.behind (text ++ channel.line line) front input := rfl
    rw [run, first, ran, comesTo, deeds, Deed.shown, Deed.shown, List.map_cons, String.join_cons,
      Deed.line, String.append_assoc]
  | ask label next ih =>
    cases input with
    | nil =>
      obtain ⟨gone, left, split, count, ran⟩ := ih none text front []
      refine ⟨gone, left, split, count, ?_⟩
      rw [run, Host.ask_nil, ran, comesTo, deeds, Deed.shown, Deed.shown, List.map_cons,
        String.join_cons, Deed.line, String.empty_append]
    | cons line input =>
      obtain ⟨gone, left, split, count, ran⟩ :=
        ih (some line) (text ++ Channel.input.line (label ++ line)) (front ++ [line]) input
      refine ⟨line :: gone, left, by rw [split, List.cons_append], ?_, ?_⟩
      · rw [deeds, Deed.handedOut, List.countP_cons_of_pos rfl, List.length_cons, count,
          Deed.handedOut]
      · rw [run, Host.ask_cons, ran, comesTo, deeds, Deed.shown, Deed.shown, List.map_cons,
          String.join_cons, Deed.line, String.append_assoc, List.append_assoc,
          List.singleton_append]

/-- Carried out on a host that starts with the input lines, a play leaves there what its calls put out
and the cursor behind the lines they handed out. -/
theorem run_eq (p : Play α) (input : List String) :
    p.run (.ofLines input) =
      (p.comesTo input,
        ⟨⟨Deed.shown (p.deeds input)⟩, ⟨input, Deed.handedOut (p.deeds input)⟩⟩) := by
  obtain ⟨gone, left, split, count, ran⟩ := p.run_behind "" [] input
  have start : Host.ofLines input = Host.behind "" [] input := rfl
  rw [start, ran, Host.behind, String.empty_append, List.nil_append, ← split, count]

end Play

/-! ## Where the engine stops -/

theorem exists_of_mapM_ok {α β γ ε : Type} {f : α → Except ε β} {g : List β → γ} {c : γ}
    {parts : List α} (made : (do return g (← parts.mapM f)) = (.ok c : Except ε γ)) {a : α}
    (among : a ∈ parts) : ∃ b, f a = .ok b := by
  induction parts generalizing g with
  | nil => cases among
  | cons a' rest ih =>
    rw [List.mapM_cons] at made
    cases first : f a' with
    | error e =>
      rw [first] at made
      cases made
    | ok b =>
      rcases List.mem_cons.mp among with rfl | later
      · exact ⟨b, first⟩
      · rw [first] at made
        have rest_made : (do return g (b :: (← rest.mapM f))) = (.ok c : Except ε γ) := by
          rw [← made]
          cases rest.mapM f <;> rfl
        exact ih (g := fun bs => g (b :: bs)) rest_made later

/-- What holds an undefined value, at whatever depth, has no JSON form. -/
theorem Machine.toJson_of_holdsUndefined {m : Machine} {v : Value} (holds : m.HoldsUndefined v)
    (n : Nat) (json : Json String) : m.toJson n v ≠ .ok json := by
  induction holds generalizing n json with
  | here => cases n <;> nofun
  | @item at_ items v array among inside ih =>
    intro made
    cases n with
    | zero => cases made
    | succ n =>
      simp only [Machine.toJson, array] at made
      obtain ⟨json, shown⟩ := exists_of_mapM_ok made (Array.mem_toList_iff.mpr among)
      exact ih n json shown
  | @member at_ key p v noArray among own data inside ih =>
    intro made
    cases n with
    | zero => cases made
    | succ n =>
      rw [Machine.toJson] at made
      split at made
      next items array => exact noArray items array
      next =>
        obtain ⟨shown, inner⟩ := exists_of_mapM_ok made among
        obtain ⟨holding, writable, enumerable, configurable⟩ := p
        cases data
        rw [own] at inner
        cases form : m.toJson n v with
        | ok json => exact ih n json form
        | error fault =>
          simp only [form] at inner
          cases inner

theorem Run.bind_apply {α β : Type} (r : Run α) (f : α → Run β) (m : Machine) :
    (r >>= f) m = (r m).bind fun
      | .ok (.ok a, m') => f a m'
      | .ok (.error e, m') => .done (.ok (.error e, m'))
      | .error cause => .done (.error cause) := rfl

/-- Nothing comes after a computation in which the engine stops. -/
theorem Run.bind_stop {α β : Type} {r : Run α} {f : α → Run β} {m : Machine} {cause : Stop}
    (stopped : r m = .done (.error cause)) : (r >>= f) m = .done (.error cause) := by
  rw [Run.bind_apply, stopped]
  rfl

theorem Machine.shownJson_of_holdsUndefined {m : Machine} {v : Value} (holds : m.HoldsUndefined v) :
    m.shownJson v = .error (.unshowable ⟨m, v, holds⟩) ∨ m.shownJson v = .error .outOfBudget := by
  unfold Machine.shownJson
  split
  next json shown => exact absurd shown (toJson_of_holdsUndefined holds _ json)
  next shown => exact .inl rfl
  next shown => exact .inr rfl

namespace Engine

/-- An object that has no JSON form stops the engine where it is rendered. -/
theorem rendered_stops (E : Engine) {m : Machine} {at_ : Nat} {cause : Stop}
    (shown : m.shownJson (.object at_) = .error cause) :
    E.rendered (.object at_) m = .done (.error cause) := by
  rw [rendered, Run.bind_apply, Run.machine, Play.bind]
  simp only [shown]
  rfl

theorem consoleText_info (E : Engine) {method : ConsoleMethod} (info : method.channel = .info)
    (args : List Value) :
    E.consoleText method args = (do return Text.join " " (← args.mapM E.rendered)) := by
  simp only [consoleText, info]

end Engine

/-- To log an object that holds an undefined value, at whatever depth, stops the engine. -/
theorem log_of_holdsUndefined (E : Engine) {m : Machine} {at_ : Nat} {method : ConsoleMethod}
    (holds : m.HoldsUndefined (.object at_)) (info : method.channel = .info) (making : Bool)
    (receiver : Value) :
    E.callNative (.console method) making receiver [.object at_] m =
        .done (.error (.unshowable ⟨m, .object at_, holds⟩)) ∨
      E.callNative (.console method) making receiver [.object at_] m =
        .done (.error .outOfBudget) := by
  have called : ∀ cause, m.shownJson (.object at_) = .error cause →
      E.callNative (.console method) making receiver [.object at_] m = .done (.error cause) := by
    intro cause shown
    have text : E.consoleText method [.object at_] m = .done (.error cause) := by
      rw [E.consoleText_info info]
      exact Run.bind_stop (Run.bind_stop (E.rendered_stops shown))
    exact Run.bind_stop text
  rcases Machine.shownJson_of_holdsUndefined holds with shown | shown
  · exact .inl (called _ shown)
  · exact .inr (called _ shown)

/-! ## What the result keeps -/

/-- An outcome begins with what the calls put out, and counts the input lines that they handed out. -/
structure Keeps (deeds : List Deed) (o : Outcome) : Prop where
  output : ∃ rest, o.output = Deed.shown deeds ++ rest
  consumed : o.stdinConsumed = Deed.handedOut deeds

/-- The host as calls leave it. -/
def hostAfter (input : List String) (deeds : List Deed) : Play.Host :=
  ⟨⟨Deed.shown deeds⟩, ⟨input, Deed.handedOut deeds⟩⟩

/-- A script that finished or that an exception ended keeps what it put out. -/
theorem Verdict.keeps_of_ended {v : Verdict} (ended : ∀ cause, v ≠ .stopped cause)
    (input : List String) (deeds : List Deed) :
    Keeps deeds (v.ending (hostAfter input deeds)).outcome := by
  cases v with
  | finished shown =>
    cases shown with
    | none => exact ⟨⟨"", String.append_empty.symm⟩, rfl⟩
    | some text => exact ⟨⟨Channel.result.line text, rfl⟩, rfl⟩
  | failed detail => exact ⟨⟨"", String.append_empty.symm⟩, rfl⟩
  | stopped cause => exact absurd rfl (ended cause)

/-- Where the engine stopped nothing is kept, so nothing must have been put out. -/
theorem Verdict.keeps_stopped_iff (cause : Stop) (input : List String) (deeds : List Deed) :
    Keeps deeds ((Verdict.stopped cause).ending (hostAfter input deeds)).outcome ↔
      ∀ d ∈ deeds, ∃ label, d = .refused label := by
  constructor
  · rintro ⟨⟨rest, output⟩, -⟩
    have empty : "" = Deed.shown deeds ++ rest := output
    exact (Deed.shown_eq_empty_iff deeds).mp (String.append_eq_empty_iff.mp empty.symm).1
  · intro refused
    refine ⟨⟨"", ?_⟩, (Deed.handedOut_of_refused refused).symm⟩
    rw [(Deed.shown_eq_empty_iff deeds).mpr refused]
    rfl

section Results

variable (now : Timestamp) (interpret : Request → Ending) (source : String) (input : List String)
  (ms : Float)

theorem result_eq :
    ((Backends.standard now interpret).result ⟨source, .javascript, input⟩ ms).toOutcome =
      (((play source).comesTo input).ending
        (hostAfter input ((play source).deeds input))).outcome := by
  have ran := (play source).run_eq input
  have ended : ending ⟨source, .javascript, input⟩ = ((play source).comesTo input).ending
      (hostAfter input ((play source).deeds input)) := by
    rw [ending, Play.ending, ran]
    rfl
  exact congrArg Ending.outcome ended

/-- The result of a script begins with the lines of all its completed calls and counts the input lines
that they handed out, unless the engine stopped after one of them had put something out. -/
theorem result_keeps_iff :
    Keeps ((play source).deeds input)
        ((Backends.standard now interpret).result ⟨source, .javascript, input⟩ ms).toOutcome ↔
      (∀ cause, (play source).comesTo input ≠ .stopped cause) ∨
        ∀ d ∈ (play source).deeds input, ∃ label, d = .refused label := by
  rw [result_eq]
  cases verdict : (play source).comesTo input with
  | stopped cause =>
    rw [Verdict.keeps_stopped_iff]
    constructor
    · exact Or.inr
    · rintro (ended | refused)
      · exact absurd rfl (ended cause)
      · exact refused
  | finished shown =>
    have ended : ∀ cause, Verdict.finished shown ≠ .stopped cause := nofun
    exact ⟨fun _ => .inl ended, fun _ => Verdict.keeps_of_ended ended _ _⟩
  | failed detail =>
    have ended : ∀ cause, Verdict.failed detail ≠ .stopped cause := nofun
    exact ⟨fun _ => .inl ended, fun _ => Verdict.keeps_of_ended ended _ _⟩

end Results

/-- A script that logs a text, and after it an object with an undefined member. -/
def logsUndefined : String := "console.log('before'); console.log(\x7ba: undefined\x7d)"

/-- The text that was logged first is not in the result. -/
theorem result_forgets_log :
    (play logsUndefined).deeds [] = [.said .info "before"] ∧
      ((Backends.standard ⟨0, 0⟩ fun _ => .panicked .opaquePayload).result
        ⟨logsUndefined, .javascript, []⟩ 0).output = "" ∧
      ¬ Keeps ((play logsUndefined).deeds [])
        ((Backends.standard ⟨0, 0⟩ fun _ => .panicked .opaquePayload).result
          ⟨logsUndefined, .javascript, []⟩ 0).toOutcome := by
  have deeds : (play logsUndefined).deeds [] = [.said .info "before"] := by decide +kernel
  have output : (ending ⟨logsUndefined, .javascript, []⟩).outcome.output = "" := by decide +kernel
  refine ⟨deeds, output, ?_⟩
  rintro ⟨⟨rest, kept⟩, -⟩
  rw [deeds] at kept
  have empty : Deed.shown [.said .info "before"] ++ rest = "" := kept.symm.trans output
  exact absurd (String.append_eq_empty_iff.mp empty).1 (by decide)

end Snippet.Script
