import Mathlib.Data.List.Forall2
import Mathlib.Tactic.Common
import Snippet.Chat.Stream
import Snippet.Proofs.Text.Lines
import Snippet.Proofs.Text.Trimming

/-!
# What a line of a stream says

The readers of payloads are functions of JSON values. Here the same is said by relations: an object has
one member of a name or none, the member may be null, and so on up to the line. Each reader answers
exactly where its relation holds, up to `Line.read_content_iff` and `Line.read_complete_iff`. A line
that neither carries content nor completes the answer is silent: blank lines and comments are.
-/

namespace Snippet.Chat

open Snippet.Text

/-! ## Members -/

/-- There is exactly one member of that name, and its value is `v`. -/
def Sole (ms : List (Points × Json Points)) (name : String) (v : Json Points) : Prop :=
  ∃ before behind, ms = before ++ (Points.ofString name, v) :: behind ∧
    (∀ m ∈ before, m.1 ≠ Points.ofString name) ∧ ∀ m ∈ behind, m.1 ≠ Points.ofString name

/-- All names are text. -/
def Named (ms : List (Points × Json Points)) : Prop := ∀ m ∈ ms, ∃ s, m.1.toString? = some s

theorem sole_iff {ms : List (Points × Json Points)} {name : String} {v : Json Points} :
    (ms.filter fun m => m.1 == Points.ofString name) = [(Points.ofString name, v)] ↔
      Sole ms name v := by
  rw [List.filter_eq_cons_iff]
  constructor
  · rintro ⟨before, behind, split, first, own, later⟩
    refine ⟨before, behind, split, ?_, ?_⟩
    · intro m among same
      exact first m among (beq_iff_eq.mpr same)
    · intro m among same
      exact List.filter_eq_nil_iff.mp later m among (beq_iff_eq.mpr same)
  · rintro ⟨before, behind, split, first, later⟩
    refine ⟨before, behind, split, ?_, beq_self_eq_true _, List.filter_eq_nil_iff.mpr ?_⟩
    · intro m among same
      exact first m among (beq_iff_eq.mp same)
    · intro m among same
      exact later m among (beq_iff_eq.mp same)

theorem namesAreText_iff {ms : List (Points × Json Points)} : namesAreText ms ↔ Named ms := by
  simp only [namesAreText, List.all_eq_true, Option.isSome_iff_exists]
  rfl

section Optional

variable {α : Type} {Reads : Json Points → α → Prop} {read : Json Points → Option α}

/-- A value that may be null. -/
inductive Nullable (Reads : Json Points → α → Prop) : Json Points → Option α → Prop where
  | null : Nullable Reads .null none
  | given {v : Json Points} {a : α} (notNull : v ≠ .null) (reads : Reads v a) :
      Nullable Reads v (some a)

/-- A member that may be missing or null. -/
inductive Field (Reads : Json Points → α → Prop) (name : String)
    (ms : List (Points × Json Points)) : Option α → Prop where
  | missing (none_ : ∀ m ∈ ms, m.1 ≠ Points.ofString name) : Field Reads name ms none
  | sole {v : Json Points} {o : Option α} (sole : Sole ms name v) (reads : Nullable Reads v o) :
      Field Reads name ms o

/-- An object with one member that matters, or an array of just that. -/
inductive Record (Reads : Json Points → α → Prop) (name : String) : Json Points → Option α → Prop where
  | members {ms : List (Points × Json Points)} {o : Option α} (named : Named ms)
      (field : Field Reads name ms o) : Record Reads name (.obj ms) o
  | item {v : Json Points} {o : Option α} (reads : Nullable Reads v o) :
      Record Reads name (.arr [v]) o

/-- The member that matters of an object or array, if it reads. -/
def record? (read : Json Points → Option α) (name : String) : Json Points → Option (Option α)
  | .obj ms => if namesAreText ms then optional? name read ms else none
  | .arr [v] => nullable? read v
  | _ => none

variable (correct : ∀ v a, read v = some a ↔ Reads v a)

include correct

theorem nullable?_iff (v : Json Points) (o : Option α) :
    nullable? read v = some o ↔ Nullable Reads v o := by
  constructor
  · intro found
    unfold nullable? at found
    split at found
    next => cases found; exact .null
    next notNull =>
      obtain ⟨a, reads, rfl⟩ := Option.map_eq_some_iff.mp found
      exact .given notNull ((correct v a).mp reads)
  · rintro (_ | ⟨notNull, reads⟩)
    · rfl
    · unfold nullable?
      split
      next => exact absurd rfl notNull
      next => rw [(correct _ _).mpr reads]; rfl

theorem optional?_iff (name : String) (ms : List (Points × Json Points)) (o : Option α) :
    optional? name read ms = some o ↔ Field Reads name ms o := by
  -- a member that is there only once is read like a value that may be null
  have one : ∀ v, Sole ms name v → optional? name read ms = nullable? read v := by
    intro v sole
    unfold optional? nullable?
    rw [sole_iff.mpr sole]
    cases v <;> rfl
  constructor
  · intro found
    cases named : ms.filter fun m => m.1 == Points.ofString name with
    | nil =>
      rw [optional?, named] at found
      cases found
      refine .missing fun m among same => ?_
      exact List.filter_eq_nil_iff.mp named m among (beq_iff_eq.mpr same)
    | cons first more =>
      obtain ⟨key, v⟩ := first
      have own : key = Points.ofString name := by
        have kept : (key, v) ∈ ms.filter fun m => m.1 == Points.ofString name := by
          rw [named]
          exact List.mem_cons_self
        exact beq_iff_eq.mp (List.mem_filter.mp kept).2
      subst own
      cases more with
      | nil =>
        have sole := sole_iff.mp named
        rw [one v sole] at found
        exact .sole sole ((nullable?_iff correct v o).mp found)
      | cons second more =>
        have twice : optional? name read ms = none := by
          unfold optional?
          rw [named]
          cases v <;> rfl
        rw [twice] at found
        cases found
  · rintro (none_ | ⟨sole, reads⟩)
    · have named : (ms.filter fun m => m.1 == Points.ofString name) = [] :=
        List.filter_eq_nil_iff.mpr fun m among same => none_ m among (beq_iff_eq.mp same)
      rw [optional?, named]
    · rw [one _ sole]
      exact (nullable?_iff correct _ _).mpr reads

theorem record?_iff (name : String) (v : Json Points) (o : Option α) :
    record? read name v = some o ↔ Record Reads name v o := by
  constructor
  · intro found
    unfold record? at found
    split at found
    next ms =>
      obtain ⟨named, field⟩ := Option.ite_none_right_eq_some.mp found
      exact .members (namesAreText_iff.mp named) ((optional?_iff correct name ms o).mp field)
    next v => exact .item ((nullable?_iff correct v o).mp found)
    next => cases found
  · rintro (⟨named, field⟩ | ⟨reads⟩)
    · rw [record?, if_pos (namesAreText_iff.mpr named)]
      exact (optional?_iff correct _ _ _).mpr field
    · exact (nullable?_iff correct _ _).mpr reads

end Optional

/-! ## Payloads -/

/-- The value is a text. -/
def TextIs (v : Json Points) (t : String) : Prop := ∃ s, v = .str s ∧ s.toString? = some t

/-- What a change says: a text, or nothing. -/
abbrev DeltaSays : Json Points → Option String → Prop := Record TextIs "content"

/-- What a choice says: what its change says, if it has one. -/
def ChoiceSays (v : Json Points) (content : Option String) : Prop :=
  ∃ change, Record DeltaSays "delta" v change ∧ content = change.join

/-- The list of choices says this, one after another. -/
def ChoicesSay (v : Json Points) (contents : List (Option String)) : Prop :=
  ∃ choices, v = .arr choices ∧ List.Forall₂ ChoiceSays choices contents

/-- What a payload says: the contents of its choices. -/
inductive PayloadSays : Json Points → List (Option String) → Prop where
  | members {ms : List (Points × Json Points)} {v : Json Points} {contents : List (Option String)}
      (named : Named ms) (sole : Sole ms "choices" v) (reads : ChoicesSay v contents) :
      PayloadSays (.obj ms) contents
  | item {v : Json Points} {contents : List (Option String)} (reads : ChoicesSay v contents) :
      PayloadSays (.arr [v]) contents

/-- The texts among contents that are not empty. -/
def spoken (contents : List (Option String)) : List String :=
  (contents.filterMap id).filter fun t => !t.isEmpty

theorem text?_iff (v : Json Points) (t : String) : text? v = some t ↔ TextIs v t := by
  constructor
  · intro found
    cases v with
    | str s => exact ⟨s, rfl, found⟩
    | _ => cases found
  · rintro ⟨s, rfl, text⟩
    exact text

theorem delta?_iff (v : Json Points) (o : Option String) : delta? v = some o ↔ DeltaSays v o := by
  have same : delta? v = record? text? "content" v := by
    unfold delta? record?
    rfl
  rw [same]
  exact record?_iff text?_iff "content" v o

theorem choice?_iff (v : Json Points) (content : Option String) :
    choice? v = some content ↔ ChoiceSays v content := by
  have same : choice? v = (record? delta? "delta" v).map Option.join := by
    cases v with
    | obj ms =>
      rw [choice?, record?]
      split <;> rfl
    | arr items => rcases items with _ | ⟨x, _ | ⟨y, rest⟩⟩ <;> rfl
    | _ => rfl
  rw [same, Option.map_eq_some_iff]
  constructor
  · rintro ⟨change, read, joined⟩
    exact ⟨change, (record?_iff delta?_iff "delta" v change).mp read, joined.symm⟩
  · rintro ⟨change, reads, joined⟩
    exact ⟨change, (record?_iff delta?_iff "delta" v change).mpr reads, joined.symm⟩

theorem mapM_eq_some_iff {α β : Type} {Reads : α → β → Prop} {read : α → Option β}
    (correct : ∀ a b, read a = some b ↔ Reads a b) (as : List α) (bs : List β) :
    as.mapM read = some bs ↔ List.Forall₂ Reads as bs := by
  induction as generalizing bs with
  | nil =>
    rw [List.mapM_nil, List.forall₂_nil_left_iff]
    exact ⟨fun same => (Option.some.inj same).symm, fun same => congrArg some same.symm⟩
  | cons a as ih =>
    rw [List.mapM_cons, List.forall₂_cons_left_iff, Option.bind_eq_bind, Option.bind_eq_some_iff]
    constructor
    · rintro ⟨b, first, rest⟩
      obtain ⟨bs', later, same⟩ := Option.bind_eq_some_iff.mp rest
      exact ⟨b, bs', (correct a b).mp first, (ih bs').mp later, (Option.some.inj same).symm⟩
    · rintro ⟨b, bs', first, later, rfl⟩
      exact ⟨b, (correct a b).mpr first, Option.bind_eq_some_iff.mpr ⟨bs', (ih bs').mpr later, rfl⟩⟩

theorem choices?_iff (v : Json Points) (pieces : List String) :
    choices? v = some pieces ↔ ∃ contents, ChoicesSay v contents ∧ pieces = spoken contents := by
  constructor
  · intro found
    obtain ⟨choices, items, rest⟩ := Option.bind_eq_some_iff.mp found
    obtain ⟨contents, read, same⟩ := Option.bind_eq_some_iff.mp rest
    have array : v = .arr choices := by
      cases v with
      | arr xs => exact congrArg Json.arr (Option.some.inj items)
      | _ => cases items
    exact ⟨contents, ⟨choices, array, (mapM_eq_some_iff choice?_iff _ _).mp read⟩,
      (Option.some.inj same).symm⟩
  · rintro ⟨contents, ⟨choices, rfl, reads⟩, rfl⟩
    have read := (mapM_eq_some_iff choice?_iff _ _).mpr reads
    rw [choices?, Json.items?, Option.bind_eq_bind, Option.bind_some, read]
    rfl

theorem sole?_iff {ms : List (Points × Json Points)} {name : String} {v : Json Points} :
    Json.sole? (Points.ofString name) ms = some v ↔ Sole ms name v := by
  rw [← sole_iff]
  unfold Json.sole?
  constructor
  · intro found
    split at found
    next m named =>
      have kept : m ∈ ms.filter fun m => m.1 == Points.ofString name := by
        rw [named]
        exact List.mem_cons_self
      have own : m.1 = Points.ofString name := beq_iff_eq.mp (List.mem_filter.mp kept).2
      rw [named, ← own, ← Option.some.inj found]
    next => cases found
  · intro named
    rw [named]

theorem pieces?_iff (v : Json Points) (pieces : List String) :
    pieces? v = some pieces ↔ ∃ contents, PayloadSays v contents ∧ pieces = spoken contents := by
  constructor
  · intro found
    unfold pieces? at found
    split at found
    next ms =>
      obtain ⟨named, read⟩ := Option.ite_none_right_eq_some.mp found
      obtain ⟨choices, sole, read⟩ := Option.bind_eq_some_iff.mp read
      obtain ⟨contents, reads, same⟩ := (choices?_iff _ _).mp read
      exact ⟨contents, .members (namesAreText_iff.mp named) (sole?_iff.mp sole) reads, same⟩
    next v =>
      obtain ⟨contents, reads, same⟩ := (choices?_iff _ _).mp found
      exact ⟨contents, .item reads, same⟩
    next => cases found
  · rintro ⟨contents, ⟨named, sole, reads⟩ | ⟨reads⟩, rfl⟩
    · rw [pieces?, if_pos (namesAreText_iff.mpr named), sole?_iff.mpr sole, Option.bind_some]
      exact (choices?_iff _ _).mpr ⟨contents, reads, rfl⟩
    · rw [pieces?]
      exact (choices?_iff _ _).mpr ⟨contents, reads, rfl⟩

/-! ## Lines -/

/-- The line is a data line with that payload; blanks around either do not count. -/
def HasPayload (line payload : List Char) : Prop :=
  ∃ rest, trimChars line = "data:".toList ++ rest ∧ payload = trimChars rest

/-- The line completes the answer. -/
def Completes (line : List Char) : Prop := HasPayload line "[DONE]".toList

/-- The line carries these pieces of content. -/
def Carries (line : List Char) (pieces : List String) : Prop :=
  ∃ payload v contents, HasPayload line payload ∧ payload ≠ "[DONE]".toList ∧
    Json.pick payload = some v ∧ PayloadSays v contents ∧ pieces = spoken contents

/-- The line says nothing: it neither completes the answer nor carries content. -/
def Silent (line : List Char) : Prop := ¬ Completes line ∧ ∀ pieces, ¬ Carries line pieces

theorem HasPayload.unique {line payload payload' : List Char} (has : HasPayload line payload)
    (has' : HasPayload line payload') : payload = payload' := by
  obtain ⟨rest, label, rfl⟩ := has
  obtain ⟨rest', label', rfl⟩ := has'
  rw [label] at label'
  rw [List.append_cancel_left label']

/-- A trimmed payload behind a label, blanks behind it or not. -/
theorem hasPayload_of_trimmed {payload blanks : List Char} (trimmed : Trimmed payload)
    (some_ : payload ≠ []) (blank : blanks.all isBlank) :
    HasPayload ("data: ".toList ++ payload ++ blanks) payload := by
  have letters : "data: ".toList = "data:".toList ++ [' '] := by decide
  have outer : Trimmed ("data: ".toList ++ payload) := by
    constructor
    · have first : ("data: ".toList ++ payload).head? = some 'd' := rfl
      rw [first]
      rintro _ ⟨⟩
      decide
    · rw [List.getLast?_append_of_ne_nil _ some_]
      exact trimmed.last
  have whole : trimChars ([] ++ ("data: ".toList ++ payload) ++ blanks) = _ :=
    trimChars_append rfl outer blank
  have inner : trimChars ([' '] ++ payload ++ []) = payload := trimChars_append (by decide) trimmed rfl
  rw [List.nil_append] at whole
  rw [List.append_nil] at inner
  exact ⟨[' '] ++ payload, by rw [whole, letters, List.append_assoc], inner.symm⟩

theorem read_of_payload {line payload : List Char} (has : HasPayload line payload) :
    Line.read line = if payload = "[DONE]".toList then some .complete
      else ((Json.pick payload).bind pieces?).map .content := by
  obtain ⟨rest, label, rfl⟩ := has
  rw [Line.read, after?_eq_some_iff.mpr label]
  simp only [Option.bind_eq_bind, Option.bind_some]
  split
  next => rfl
  next =>
    cases Json.pick (trimChars rest) with
    | none => rfl
    | some v =>
      rw [Option.bind_some, Option.bind_some]
      cases pieces? v <;> rfl

theorem read_of_other {line : List Char} (other : ¬ ∃ payload, HasPayload line payload) :
    Line.read line = none := by
  have unlabelled : after? "data:".toList (trimChars line) = none := by
    by_contra labelled
    obtain ⟨rest, label⟩ := Option.ne_none_iff_exists'.mp labelled
    exact other ⟨_, rest, after?_eq_some_iff.mp label, rfl⟩
  rw [Line.read, unlabelled]
  rfl

theorem Line.read_complete_iff (line : List Char) :
    Line.read line = some .complete ↔ Completes line := by
  constructor
  · intro complete
    by_cases labelled : ∃ payload, HasPayload line payload
    · obtain ⟨payload, has⟩ := labelled
      rw [read_of_payload has] at complete
      split at complete
      next last => rwa [last] at has
      next going =>
        obtain ⟨pieces, -, impossible⟩ := Option.map_eq_some_iff.mp complete
        cases impossible
    · rw [read_of_other labelled] at complete
      cases complete
  · intro completes
    rw [read_of_payload completes, if_pos rfl]

theorem Line.read_content_iff (line : List Char) (pieces : List String) :
    Line.read line = some (.content pieces) ↔ Carries line pieces := by
  constructor
  · intro content
    by_cases labelled : ∃ payload, HasPayload line payload
    · obtain ⟨payload, has⟩ := labelled
      rw [read_of_payload has] at content
      split at content
      next => cases content
      next going =>
        obtain ⟨pieces', read, same⟩ := Option.map_eq_some_iff.mp content
        cases same
        obtain ⟨v, form, read⟩ := Option.bind_eq_some_iff.mp read
        obtain ⟨contents, reads, same⟩ := (pieces?_iff _ _).mp read
        exact ⟨payload, v, contents, has, going, form, reads, same⟩
    · rw [read_of_other labelled] at content
      cases content
  · rintro ⟨payload, v, contents, has, going, form, reads, same⟩
    rw [read_of_payload has, if_neg going, form, Option.bind_some,
      (pieces?_iff _ _).mpr ⟨contents, reads, same⟩]
    rfl

theorem Line.read_none_iff (line : List Char) : Line.read line = none ↔ Silent line := by
  constructor
  · intro nothing
    refine ⟨fun completes => ?_, fun pieces carries => ?_⟩
    · rw [(Line.read_complete_iff line).mpr completes] at nothing
      cases nothing
    · rw [(Line.read_content_iff line pieces).mpr carries] at nothing
      cases nothing
  · rintro ⟨going, wordless⟩
    cases said : Line.read line with
    | none => rfl
    | some s =>
      cases s with
      | complete => exact absurd ((Line.read_complete_iff line).mp said) going
      | content pieces => exact absurd ((Line.read_content_iff line pieces).mp said) (wordless pieces)

/-! ## Silent lines -/

variable {line : List Char}

theorem silent_of_unlabelled (unlabelled : ¬ ∃ payload, HasPayload line payload) : Silent line :=
  (Line.read_none_iff line).mp (read_of_other unlabelled)

theorem silent_of_blank (blank : line.all isBlank) : Silent line := by
  apply silent_of_unlabelled
  rintro ⟨payload, rest, label, -⟩
  rw [trimChars_eq_nil_iff.mpr blank] at label
  cases label

/-- A comment begins with a colon. -/
theorem silent_of_comment {text : List Char} (comment : trimStartChars line = ':' :: text) :
    Silent line := by
  apply silent_of_unlabelled
  rintro ⟨payload, rest, label, -⟩
  have visible : isBlank ':' = false := by decide
  have kept := trimEndChars_append_cons visible [] text
  rw [List.nil_append, List.nil_append] at kept
  rw [trimChars, comment, kept] at label
  cases label

end Snippet.Chat
