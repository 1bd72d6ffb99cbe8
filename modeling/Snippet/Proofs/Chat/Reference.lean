import Mathlib.Tactic.Common
import Snippet.Proofs.Chat.Chunks
import Snippet.Proofs.Chat.Payload

/-!
# The reference decoding of a body

`Tells` goes through lines one by one: a line carries content, completes the answer, or is silent. The
events of a body are what the ended lines of its whole text tell and one event more, however the text
is cut into chunks (`events_of_tells`); with the ways in which a request fails this is all that a
request can come to (`Client.stream_reference`).
-/

namespace Snippet.Chat

open Snippet.Text

/-- Lines tell these pieces of content, up to the first one that completes the answer; and whether
there is such a line. -/
inductive Tells : List (List Char) → List String → Bool → Prop where
  | nil : Tells [] [] false
  | complete {line : List Char} {rest : List (List Char)} (completes : Completes line) :
      Tells (line :: rest) [] true
  | carry {line : List Char} {rest : List (List Char)} {pieces more : List String} {complete : Bool}
      (carries : Carries line pieces) (later : Tells rest more complete) :
      Tells (line :: rest) (pieces ++ more) complete
  | skip {line : List Char} {rest : List (List Char)} {pieces : List String} {complete : Bool}
      (silent : Silent line) (later : Tells rest pieces complete) :
      Tells (line :: rest) pieces complete

variable {lines x y : List (List Char)} {pieces : List String} {complete : Bool}

theorem Tells.contents_eq (tells : Tells lines pieces complete) :
    contents lines = (pieces, complete) := by
  induction tells with
  | nil => rfl
  | complete completes => rw [contents, (Line.read_complete_iff _).mpr completes]
  | carry carries later ih => rw [contents, (Line.read_content_iff _ _).mpr carries, ih]
  | skip silent later ih => rw [contents, (Line.read_none_iff _).mpr silent, ih]

theorem tells_contents (lines : List (List Char)) :
    Tells lines (contents lines).1 (contents lines).2 := by
  induction lines with
  | nil => exact .nil
  | cons line rest ih =>
    rw [contents]
    cases said : Line.read line with
    | none => exact .skip ((Line.read_none_iff line).mp said) ih
    | some s =>
      cases s with
      | complete => exact .complete ((Line.read_complete_iff line).mp said)
      | content pieces => exact .carry ((Line.read_content_iff line pieces).mp said) ih

/-- What lines tell is settled. -/
theorem tells_iff : Tells lines pieces complete ↔ contents lines = (pieces, complete) := by
  refine ⟨Tells.contents_eq, fun same => ?_⟩
  have tells := tells_contents lines
  rwa [same] at tells

/-- Lines that are there for other reasons: blank ones, comments, and all that say nothing. -/
def Noise (line : List Char) : Prop :=
  line.all isBlank ∨ (∃ text, trimStartChars line = ':' :: text) ∨ Silent line

theorem Noise.silent {line : List Char} (noise : Noise line) : Silent line := by
  rcases noise with blank | ⟨text, comment⟩ | silent
  · exact silent_of_blank blank
  · exact silent_of_comment comment
  · exact silent

/-- A silent line makes no difference, wherever it stands. -/
theorem tells_insert_iff {line : List Char} (silent : Silent line) :
    Tells (x ++ line :: y) pieces complete ↔ Tells (x ++ y) pieces complete := by
  have nothing := (Line.read_none_iff line).mpr silent
  have same : contents (line :: y) = contents y := by rw [contents, nothing]
  rw [tells_iff, tells_iff, contents_append, contents_append, same]

/-- What stands behind the line that completes the answer makes no difference. -/
theorem tells_behind_iff {line : List Char} (completes : Completes line) :
    Tells (x ++ line :: y) pieces complete ↔ Tells (x ++ [line]) pieces complete := by
  have last := (Line.read_complete_iff line).mpr completes
  have same : contents (line :: y) = contents [line] := by rw [contents, contents, last]
  rw [tells_iff, tells_iff, contents_append, contents_append, same]

/-! ## Bodies -/

/-- The event after all content. -/
def lastEvent (ended : Bool) : Event := if ended then .done else .failed brokenOff

/-- The events of a body are what the ended lines of its text tell, and one more. -/
theorem events_of_tells {texts : List String} {clean : Bool}
    (tells : Tells (endedLines (texts.flatMap String.toList)) pieces complete) :
    events clean (texts.map Utf8.encode) =
      pieces.map .content ++ [lastEvent (complete || clean)] := by
  have text : (texts.map Utf8.encode).flatMap Utf8.decodeLossy = texts.flatMap String.toList := by
    rw [List.flatMap_map]
    simp only [Utf8.decodeLossy_encode]
  rw [events_eq_textEvents, text, textEvents, terminated_eq_endedLines, tells.contents_eq]
  cases complete <;> rfl

theorem collect_told (pieces : List String) (ended : Bool) :
    Event.collect (pieces.map .content ++ [lastEvent ended]) =
      if ended then .ok (String.join pieces) else .error brokenOff := by
  induction pieces with
  | nil => cases ended <;> rfl
  | cons piece pieces ih =>
    rw [List.map_cons, List.cons_append, Event.collect, ih, String.join_cons]
    cases ended <;> rfl

/-! ## Requests -/

/-- Why a response is no answer, if it is none. -/
def Response.refusal? : Response → Option String
  | .dropped => some notSent
  | .malformed => some notSent
  | .answered status _ _ => if isSuccessStatus status then none else some (statusMessage status)

theorem Response.events_of_refusal {response : Response} {reason : String}
    (refused : response.refusal? = some reason) : response.events = [.failed reason] := by
  cases response with
  | dropped => cases refused; rfl
  | malformed => cases refused; rfl
  | answered status chunks clean =>
    rw [refusal?] at refused
    split at refused
    next => cases refused
    next fails =>
      cases refused
      rw [Response.events, if_pos (by simpa using fails)]

section Requests

variable (c : Client) (server : String) (messages : List Message) (options : Options)

/-- A request that is not sent comes to an error, whatever the server would do. -/
theorem Client.stream_of_unsent {response : Response}
    (unsent : (c.stream server messages options response).1 = none) :
    ∃ reason, c.stream server messages options response = (none, [.failed reason]) := by
  rw [Client.stream] at unsent ⊢
  dsimp only at unsent ⊢
  split
  next bad => exact ⟨badHeader, rfl⟩
  next good =>
    rw [if_neg good] at unsent
    split
    next nowhere => exact ⟨notSent, rfl⟩
    next target found =>
      rw [found] at unsent
      cases unsent

/-- All that a request can come to: an error alone if it is not sent or not answered, and else what
the lines of the body tell. Noise among the lines makes no difference, nor does anything behind the
line that completes the answer. -/
theorem Client.stream_reference :
    (∀ response, (c.stream server messages options response).1 = none →
      ∃ reason, c.stream server messages options response = (none, [.failed reason]) ∧
        c.complete server messages options response = (none, .error reason)) ∧
    (∀ response reason, (c.stream server messages options response).1.isSome →
      response.refusal? = some reason →
        (c.stream server messages options response).2 = [.failed reason] ∧
        (c.complete server messages options response).2 = .error reason) ∧
    (∀ status texts clean,
      (c.stream server messages options (.answered status (texts.map Utf8.encode) clean)).1.isSome →
      isSuccessStatus status → (isBodyless status → texts = [] ∧ clean = true) →
      ∃ pieces complete, Tells (endedLines (texts.flatMap String.toList)) pieces complete ∧
        (c.stream server messages options (.answered status (texts.map Utf8.encode) clean)).2 =
          pieces.map .content ++ [lastEvent (complete || clean)] ∧
        (c.complete server messages options (.answered status (texts.map Utf8.encode) clean)).2 =
          if complete || clean then .ok (String.join pieces) else .error brokenOff) ∧
    (∀ x line y pieces complete, Noise line →
      (Tells (x ++ line :: y) pieces complete ↔ Tells (x ++ y) pieces complete)) ∧
    ∀ x line y pieces complete, Completes line →
      (Tells (x ++ line :: y) pieces complete ↔ Tells (x ++ [line]) pieces complete) := by
  refine ⟨fun response unsent => ?_, fun response reason sent refused => ?_,
    fun status texts clean sent success bodiless => ?_,
    fun x line y pieces complete noise => tells_insert_iff noise.silent,
    fun x line y pieces complete completes => tells_behind_iff completes⟩
  · obtain ⟨reason, stream⟩ := c.stream_of_unsent server messages options unsent
    exact ⟨reason, stream, by rw [Client.complete, stream]; rfl⟩
  · have stream := c.stream_of_sent server messages options sent response
    rw [Response.events_of_refusal refused] at stream
    exact ⟨by rw [stream], by rw [Client.complete, stream]; rfl⟩
  · have stream := c.stream_of_sent server messages options sent
      (.answered status (texts.map Utf8.encode) clean)
    -- where the status allows no body, the events are those of an empty one that came to its end
    have answer : (Response.answered status (texts.map Utf8.encode) clean).events =
        events clean (texts.map Utf8.encode) := by
      by_cases bodied : isBodyless status
      · obtain ⟨rfl, rfl⟩ := bodiless bodied
        simp [Response.events, success, bodied]
      · simp [Response.events, success, bodied]
    have tells := tells_contents (endedLines (texts.flatMap String.toList))
    rw [answer, events_of_tells tells] at stream
    refine ⟨_, _, tells, by rw [stream], ?_⟩
    rw [Client.complete, stream]
    exact collect_told _ _

/-- A body whose last line that counts is cut in two, with a comment before it and content behind it. -/
theorem Client.stream_reference_cut :
    let c : Client := ⟨"http://localhost/v1", none⟩
    let texts := [prelude ++ "a" ++ postlude ++ ": wait\ndata: [DO", "NE]\n" ++ prelude ++ "b" ++ postlude]
    let answer := Response.answered 200 (texts.map Utf8.encode) false
    (c.stream "http://localhost" [] (reviewOptions "m") answer).2 = [.content "a", .done] ∧
      ∃ pieces complete, Tells (endedLines (texts.flatMap String.toList)) pieces complete ∧
        (c.stream "http://localhost" [] (reviewOptions "m") answer).2 =
          pieces.map .content ++ [lastEvent (complete || false)] ∧
        (c.complete "http://localhost" [] (reviewOptions "m") answer).2 =
          if complete || false then .ok (String.join pieces) else .error brokenOff := by
  intro c texts answer
  have stream : (c.stream "http://localhost" [] (reviewOptions "m") answer).2 =
      [.content "a", .done] := by decide +kernel
  have sent : (c.stream "http://localhost" [] (reviewOptions "m") answer).1.isSome := by
    decide +kernel
  have reference := c.stream_reference "http://localhost" [] (reviewOptions "m")
  exact ⟨stream, reference.2.2.1 200 texts false sent (by decide) (by decide)⟩

end Requests

end Snippet.Chat
