import Mathlib.Tactic.Common
import Snippet.Proofs.Chat.Payload
import Snippet.Proofs.Json.Grammar
import Snippet.Proofs.Text.Cuts

/-!
# The text of a stream

A body is read chunk by chunk. `Chat.events_eq_textEvents`: what is left of the last line is carried
over rightly, so the events are those of the text that the chunks make when each of them is decoded
by itself. A text of lines that carry content is read as that content
(`Chat.textEvents_contentLines`).
-/

namespace Snippet.Chat

open Snippet.Text

/-- The content of lines up to the first one that completes the answer. -/
theorem contents_append (x y : List (List Char)) :
    contents (x ++ y) =
      if (contents x).2 then contents x else ((contents x).1 ++ (contents y).1, (contents y).2) := by
  induction x with
  | nil => rfl
  | cons line x ih =>
    rw [List.cons_append, contents, contents]
    cases Line.read line with
    | none => exact ih
    | some said =>
      cases said with
      | complete => rfl
      | content pieces =>
        dsimp only
        rw [ih]
        split <;> simp

/-- The events of a text that a body is. -/
def textEvents (clean : Bool) (text : List Char) : List Event :=
  (contents (terminated '\n' text).1).1.map .content ++
    if (contents (terminated '\n' text).1).2 then [.done]
    else [if clean then .done else .failed brokenOff]

theorem eventsFrom_eq_textEvents (clean : Bool) (chunks : List (List UInt8)) {left : List Char}
    (open_ : terminated '\n' left = ([], left)) :
    eventsFrom left clean chunks = textEvents clean (left ++ chunks.flatMap Utf8.decodeLossy) := by
  induction chunks generalizing left with
  | nil =>
    rw [List.flatMap_nil, List.append_nil, textEvents, open_]
    rfl
  | cons chunk rest ih =>
    have later := ih (terminated_rest '\n' (left ++ Utf8.decodeLossy chunk))
    have joined := terminated_append '\n' (left ++ Utf8.decodeLossy chunk)
      (rest.flatMap Utf8.decodeLossy)
    rw [List.append_assoc] at joined
    rw [eventsFrom, List.flatMap_cons, textEvents, joined, contents_append]
    dsimp only
    rw [later, textEvents]
    split
    next => simp
    next => simp

/-- The events of a body are those of its chunks, each of them decoded by itself. -/
theorem events_eq_textEvents (clean : Bool) (chunks : List (List UInt8)) :
    events clean chunks = textEvents clean (chunks.flatMap Utf8.decodeLossy) :=
  eventsFrom_eq_textEvents clean chunks rfl

/-- How a body is cut does not matter as long as no cut falls inside a character. -/
theorem events_of_whole {chunks : List (List UInt8)} (whole : Utf8.Whole chunks) (clean : Bool) :
    events clean chunks = events clean [chunks.flatten] := by
  have text := (Utf8.decodeLossy_flatten_iff chunks).mpr whole
  rw [events_eq_textEvents, events_eq_textEvents, text, List.flatMap_singleton]

/-! ## A line that carries content -/

/-- The payload of a line that carries a text. -/
def payload (s : String) : Json String :=
  .obj [("choices", .arr [.obj [("delta", .obj [("content", .str s)])]])]

/-- The content of a text; an empty text is none. -/
def pieceOf (s : String) : List String := [s].filter fun t => !t.isEmpty

theorem pieces?_payload (s : String) : pieces? (payload s).toPoints = some (pieceOf s) := by
  have text : text? (.str (Points.ofString s)) = some s := Points.toString?_ofString s
  have delta : delta? (.obj [(Points.ofString "content", .str (Points.ofString s))]) =
      (text? (.str (Points.ofString s))).map some := rfl
  rw [text] at delta
  have choice : ∀ v ms, v = Json.obj ms → choice? (.obj [(Points.ofString "delta", v)]) =
      ((delta? v).map some).map Option.join := by
    rintro v ms rfl
    rfl
  have choices : ∀ v, choices? (.arr [v]) =
      (choice? v).map fun content => ([content].filterMap id).filter fun t => !t.isEmpty := by
    intro v
    rw [choices?]
    cases found : choice? v with
    | none => simp [Json.items?, found]
    | some content => simp [Json.items?, found]
  have all : pieces? (payload s).toPoints =
      choices? (.arr [.obj [(Points.ofString "delta",
        .obj [(Points.ofString "content", .str (Points.ofString s))])]]) := rfl
  rw [all, choices, choice _ _ rfl, delta]
  rfl

/-- The line that carries a text, without its end. -/
def contentLine (s : String) : List Char := "data: ".toList ++ Json.write Json.report (payload s)

theorem contentLine_eq (s : String) : contentLine s =
    "data: \x7b\"choices\":[\x7b\"delta\":\x7b\"content\":\"".toList ++
      (s.toList.flatMap Json.escapeChar ++ "\"\x7d\x7d]\x7d".toList) := by
  have choices : Json.report.quote "choices" = "\"choices\"".toList := by decide +kernel
  have delta : Json.report.quote "delta" = "\"delta\"".toList := by decide +kernel
  have content : Json.report.quote "content" = "\"content\"".toList := by decide +kernel
  have text : Json.report.quote s = '"' :: s.toList.flatMap Json.escapeChar ++ ['"'] := rfl
  have colon : Json.report.colon = [':'] := rfl
  have line : contentLine s = "data: ".toList ++ Json.write Json.report (payload s) := rfl
  simp only [line, payload, Json.write, Json.writeItems, Json.writeMembers, choices, delta,
    content, text, colon]
  simp

/-- The payload of a text in the style of reports. -/
theorem denotes_payload (s : String) :
    Json.Denotes (payload s) (Json.write Json.report (payload s)) :=
  Json.denotes_obj _ (Json.denotes_arr (Json.denotes_obj _ (Json.denotes_obj _ (Json.denotes_str s))))

/-- A line is read as the text that its payload spells. -/
theorem read_of_denotes {s : String} {spelled blanks : List Char}
    (denotes : Json.Denotes (payload s) spelled) (blank : blanks.all isBlank) :
    Line.read ("data: ".toList ++ spelled ++ blanks) = some (.content (pieceOf s)) := by
  obtain ⟨inner, braces⟩ : ∃ inner, spelled = '\x7b' :: (inner ++ ['\x7d']) := by
    cases denotes with
    | obj => exact ⟨_, rfl⟩
  have trimmed : Trimmed spelled := by
    rw [← trimChars_eq_self_iff, braces]
    exact trimChars_of_ends rfl rfl
  have some_ : spelled ≠ [] := by
    rw [braces]
    exact List.cons_ne_nil _ _
  have going : spelled ≠ "[DONE]".toList := by
    rw [braces]
    intro eq
    cases eq
  rw [read_of_payload (hasPayload_of_trimmed trimmed some_ blank), if_neg going,
    denotes.pick, Option.bind_some, pieces?_payload]
  rfl

/-- The line that carries a text is read as that text. -/
theorem read_contentLine (s : String) :
    Line.read (contentLine s) = some (.content (pieceOf s)) := by
  have read : Line.read ("data: ".toList ++ Json.write Json.report (payload s) ++ []) = _ :=
    read_of_denotes (denotes_payload s) rfl
  rwa [List.append_nil] at read

/-- No text makes a second line of the line that carries it. -/
theorem contentLine_one_line (s : String) : '\n' ∉ contentLine s := by
  have label : '\n' ∉ "data: ".toList := by decide
  have line : contentLine s = "data: ".toList ++ Json.write Json.report (payload s) := rfl
  rw [line, List.mem_append, not_or]
  exact ⟨label, (denotes_payload s).one_line⟩

/-! ## Bodies of content -/

/-- What stands for itself between quotes. -/
def Unescaped (text : List Char) : Prop := ∀ c ∈ text, Json.escapeChar c = [c] ∧ c ≠ '\n'

theorem escape_unescaped {text : List Char} (unescaped : Unescaped text) :
    text.flatMap Json.escapeChar = text := by
  induction text with
  | nil => rfl
  | cons c text ih =>
    rw [List.flatMap_cons, (unescaped c (List.mem_cons_self ..)).1,
      ih fun c mem => unescaped c (List.mem_cons_of_mem _ mem)]
    rfl

/-- What stands before a text in the line that carries it. -/
def prelude : String := "data: \x7b\"choices\":[\x7b\"delta\":\x7b\"content\":\""

/-- What stands behind a text in the line that carries it, the end of the line included. -/
def postlude : String := "\"\x7d\x7d]\x7d\n"

/-- The lines that carry some texts. -/
def contentLines (texts : List String) : List Char := texts.flatMap fun s => contentLine s ++ ['\n']

theorem contentLine_of_unescaped {s : String} (unescaped : Unescaped s.toList) :
    contentLine s ++ ['\n'] = prelude.toList ++ (s.toList ++ postlude.toList) := by
  rw [contentLine_eq, escape_unescaped unescaped, List.append_assoc, List.append_assoc]
  rfl

theorem terminated_contentLines (texts : List String) :
    terminated '\n' (contentLines texts) = (texts.map contentLine, []) := by
  induction texts with
  | nil => rfl
  | cons s texts ih =>
    have line := terminated_line (contentLine_one_line s)
    have cons : contentLines (s :: texts) = (contentLine s ++ ['\n']) ++ contentLines texts :=
      List.flatMap_cons
    rw [cons, terminated_append, line, List.nil_append, ih]
    rfl

theorem contents_contentLines (texts : List String) :
    contents (texts.map contentLine) = (texts.flatMap pieceOf, false) := by
  induction texts with
  | nil => rfl
  | cons s texts ih =>
    rw [List.map_cons, contents, read_contentLine, List.flatMap_cons]
    dsimp only
    rw [ih]

/-- The events of the lines that carry some texts. -/
theorem textEvents_contentLines (texts : List String) (clean : Bool) :
    textEvents clean (contentLines texts) =
      (texts.flatMap pieceOf).map .content ++ [if clean then .done else .failed brokenOff] := by
  rw [textEvents, terminated_contentLines, contents_contentLines]
  rfl

theorem collect_contents (pieces : List String) :
    (Event.collect (pieces.map .content ++ [.done])).map String.toList =
      .ok (pieces.flatMap String.toList) := by
  induction pieces with
  | nil => rfl
  | cons s pieces ih =>
    rw [List.map_cons, List.cons_append, Event.collect, List.flatMap_cons]
    cases rest : Event.collect (pieces.map .content ++ [.done]) with
    | error reason =>
      rw [rest] at ih
      cases ih
    | ok t =>
      rw [rest] at ih
      have same : t.toList = pieces.flatMap String.toList := Except.ok.inj ih
      rw [← same]
      exact congrArg Except.ok String.toList_append

theorem toList_pieceOf (s : String) : (pieceOf s).flatMap String.toList = s.toList := by
  rw [pieceOf]
  by_cases empty : s = ""
  · rw [empty]
    rfl
  · have kept : [s].filter (fun t => !t.isEmpty) = [s] := by simpa using empty
    rw [kept]
    exact List.append_nil _

theorem toList_pieces (texts : List String) :
    (texts.flatMap pieceOf).flatMap String.toList = texts.flatMap String.toList := by
  rw [List.flatMap_assoc]
  simp only [toList_pieceOf]

theorem length_contentLines {texts : List String} (unescaped : ∀ s ∈ texts, Unescaped s.toList) :
    (contentLines texts).length = (texts.flatMap String.toList).length +
      texts.length * (prelude.length + postlude.length) := by
  induction texts with
  | nil => rfl
  | cons s texts ih =>
    have rest := ih fun s mem => unescaped s (List.mem_cons_of_mem _ mem)
    have line := contentLine_of_unescaped (unescaped s (List.mem_cons_self ..))
    have cons : contentLines (s :: texts) = (contentLine s ++ ['\n']) ++ contentLines texts :=
      List.flatMap_cons
    rw [cons, line, List.length_append, rest, List.flatMap_cons, List.length_append, List.length_cons,
      Nat.succ_mul, List.length_append, List.length_append]
    simp only [String.length_toList]
    omega

end Snippet.Chat
