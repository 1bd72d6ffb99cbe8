import Snippet.Proofs.Chat.Reference
import Snippet.Proofs.Json.Grammar

/-!
# Texts that are encoded as a stream

`Encodes` says which bodies a sender may make of some texts: a data line for each, with any spelling of the
payload, blank lines and comments anywhere, either kind of line end, and the line that completes the answer.
`Client.stream_encoded`: the texts are what comes out, however such a body is cut between characters.
-/

namespace Snippet.Chat

open Text

/-! ## Bodies that encode texts -/

/-- The end of a line. -/
def LineEnd (ending : List Char) : Prop := ending = ['\n'] ∨ ending = ['\r', '\n']

/-- A blank line or a comment, without its end. -/
def Filler (line : List Char) : Prop :=
  '\n' ∉ line ∧ (line.all isBlank ∨ ∃ text, line = ':' :: text)

/-- The body encodes the texts. Nothing need end the last line if the body comes to its end cleanly. -/
inductive Encodes (clean : Bool) : List String → List Char → Prop where
  | done {ending : List Char} (ended : LineEnd ending ∨ ending = [] ∧ clean = true) :
      Encodes clean [] ("data: [DONE]".toList ++ ending)
  | filler {texts : List String} {line ending body : List Char} (filler : Filler line)
      (ended : LineEnd ending) (rest : Encodes clean texts body) :
      Encodes clean texts (line ++ ending ++ body)
  | text {text : String} {texts : List String} {spelled ending body : List Char}
      (denotes : Json.Denotes (payload text) spelled) (ended : LineEnd ending)
      (rest : Encodes clean texts body) :
      Encodes clean (text :: texts) ("data: ".toList ++ spelled ++ ending ++ body)

/-! ## Lines -/

variable {line ending body spelled : List Char}

theorem LineEnd.eq (ended : LineEnd ending) :
    ∃ carriage : List Char, ending = carriage ++ ['\n'] ∧ carriage.all isBlank ∧ '\n' ∉ carriage := by
  rcases ended with rfl | rfl
  · exact ⟨[], rfl, by decide⟩
  · exact ⟨['\r'], rfl, by decide⟩

theorem endedLines_cons (inside : '\n' ∉ line) (body : List Char) :
    endedLines (line ++ '\n' :: body) = line :: endedLines body := by
  rw [← terminated_eq_endedLines, ← terminated_eq_endedLines, terminated_append_of_not_mem inside,
    terminated]
  obtain ⟨ended, tail⟩ := terminated '\n' body
  cases ended <;> simp

/-- A data line carries the text that its payload spells. -/
theorem carries_of_denotes {text : String} (some_ : text ≠ "")
    (denotes : Json.Denotes (payload text) spelled) {blanks : List Char} (blank : blanks.all isBlank) :
    Carries ("data: ".toList ++ spelled ++ blanks) [text] := by
  have piece : pieceOf text = [text] := by simpa [pieceOf] using some_
  rw [← Line.read_content_iff, read_of_denotes denotes blank, piece]

theorem completes_of_blanks {blanks : List Char} (blank : blanks.all isBlank) :
    Completes ("data: [DONE]".toList ++ blanks) := by
  have letters : "data: [DONE]".toList = "data: ".toList ++ "[DONE]".toList := by decide
  have trimmed : Trimmed "[DONE]".toList := by
    rw [← trimChars_eq_self_iff]
    decide
  rw [letters]
  exact hasPayload_of_trimmed trimmed (by decide) blank

/-- Blank lines and comments say nothing. -/
theorem Filler.silent (filler : Filler line) {blanks : List Char} (blank : blanks.all isBlank) :
    Silent (line ++ blanks) := by
  obtain ⟨_, empty | ⟨text, rfl⟩⟩ := filler
  · refine silent_of_blank ?_
    rw [List.all_append, empty, blank, Bool.and_self]
  · have comment : trimStartChars (':' :: text ++ blanks) = ':' :: (text ++ blanks) := rfl
    exact silent_of_comment comment

/-! ## What encoded bodies tell -/

/-- The ended lines of a body that encodes texts tell these texts. If they do not tell that the answer is
complete, the body does by coming to its end. -/
theorem Encodes.tells {clean : Bool} {texts : List String} (encodes : Encodes clean texts body)
    (some_ : ∀ text ∈ texts, text ≠ "") :
    ∃ complete, Tells (endedLines body) texts complete ∧ (complete || clean) = true := by
  have label : '\n' ∉ "data: ".toList := by decide
  induction encodes with
  | done ended =>
    have inside : '\n' ∉ "data: [DONE]".toList := by decide
    rcases ended with ended | ⟨rfl, rfl⟩
    · obtain ⟨carriage, rfl, blank, plain⟩ := ended.eq
      have inside' : '\n' ∉ "data: [DONE]".toList ++ carriage := by
        rw [List.mem_append, not_or]
        exact ⟨inside, plain⟩
      rw [← List.append_assoc, endedLines_cons inside' []]
      exact ⟨true, .complete (completes_of_blanks blank), rfl⟩
    · exact ⟨false, .nil, rfl⟩
  | @filler texts line ending body filler ended rest ih =>
    obtain ⟨carriage, rfl, blank, plain⟩ := ended.eq
    obtain ⟨complete, tells, ends⟩ := ih some_
    have inside : '\n' ∉ line ++ carriage := by
      rw [List.mem_append, not_or]
      exact ⟨filler.1, plain⟩
    have cut : line ++ (carriage ++ ['\n']) ++ body = (line ++ carriage) ++ '\n' :: body := by simp
    rw [cut, endedLines_cons inside]
    exact ⟨complete, .skip (filler.silent blank) tells, ends⟩
  | @text text texts spelled ending body denotes ended rest ih =>
    obtain ⟨carriage, rfl, blank, plain⟩ := ended.eq
    obtain ⟨first, later⟩ := List.forall_mem_cons.mp some_
    obtain ⟨complete, tells, ends⟩ := ih later
    have inside : '\n' ∉ "data: ".toList ++ spelled ++ carriage := by
      rw [List.mem_append, List.mem_append, not_or, not_or]
      exact ⟨⟨label, denotes.one_line⟩, plain⟩
    have cut : "data: ".toList ++ spelled ++ (carriage ++ ['\n']) ++ body =
        ("data: ".toList ++ spelled ++ carriage) ++ '\n' :: body := by simp
    rw [cut, endedLines_cons inside]
    exact ⟨complete, .carry (carries_of_denotes first denotes blank) tells, ends⟩

/-! ## A sender's own spelling -/

/-- Any texts can be encoded: a line for each and the line that completes the answer. -/
theorem encodes_contentLines (clean : Bool) (texts : List String) :
    Encodes clean texts (contentLines texts ++ "data: [DONE]\n".toList) := by
  induction texts with
  | nil => exact .done (Or.inl (Or.inl rfl))
  | cons text texts ih =>
    have cons : contentLines (text :: texts) ++ "data: [DONE]\n".toList = "data: ".toList ++
        Json.write Json.report (payload text) ++ ['\n'] ++
          (contentLines texts ++ "data: [DONE]\n".toList) := by
      rw [contentLines, List.flatMap_cons, List.append_assoc]
      rfl
    rw [cons]
    exact .text (denotes_payload text) (Or.inl rfl) ih

/-! ## Requests -/

section Requests

variable (c : Client) (server : String) (messages : List Message) (options : Options)

/-- Texts that are not empty come out of any body that encodes them, each for itself and then the end; the
whole answer is the texts joined. -/
theorem Client.stream_encoded {status : Nat} {clean : Bool} {texts chunks : List String}
    (sent : (c.stream server messages options
      (.answered status (chunks.map Utf8.encode) clean)).1.isSome)
    (success : isSuccessStatus status) (bodied : ¬ isBodyless status)
    (some_ : ∀ text ∈ texts, text ≠ "")
    (encodes : Encodes clean texts (chunks.flatMap String.toList)) :
    (c.stream server messages options (.answered status (chunks.map Utf8.encode) clean)).2 =
        texts.map .content ++ [.done] ∧
      (c.complete server messages options (.answered status (chunks.map Utf8.encode) clean)).2 =
        .ok (String.join texts) := by
  obtain ⟨complete, tells, ends⟩ := encodes.tells some_
  have answer : (Response.answered status (chunks.map Utf8.encode) clean).events =
      texts.map .content ++ [lastEvent true] := by
    have body : (Response.answered status (chunks.map Utf8.encode) clean).events =
        events clean (chunks.map Utf8.encode) := by
      simp [Response.events, success, bodied]
    rw [body, events_of_tells tells, ends]
  have stream := c.stream_of_sent server messages options sent
    (.answered status (chunks.map Utf8.encode) clean)
  rw [answer] at stream
  refine ⟨by rw [stream]; rfl, ?_⟩
  rw [Client.complete, stream]
  exact collect_told texts true

/-- A text that looks like the end of the answer and one with quotes and characters that are escaped as
numbers, among comments and blank lines; the body is cut inside a payload. -/
theorem Client.stream_encoded_escapes :
    let c : Client := ⟨"http://localhost/v1", none⟩
    let texts := ["data: [DONE]", " \"é😀\n"]
    let chunks := [": wait\r\ndata: \x7b\"choices\":[\x7b\"delta\":\x7b\"content\":\"data: [DO",
      "NE]\"\x7d\x7d]\x7d\n \t\r\ndata: \x7b \"choices\": [\x7b\"delta\": \x7b\"content\": \" \\\"\\u00e9",
      "\\ud83d\\uDE00\\n\"\x7d\x7d]\x7d\r\n\ndata: [DONE]"]
    let answer := Response.answered 200 (chunks.map Utf8.encode) true
    Encodes true texts (chunks.flatMap String.toList) ∧
      (c.stream "http://localhost" [] (reviewOptions "m") answer).2 = texts.map .content ++ [.done] ∧
      (c.complete "http://localhost" [] (reviewOptions "m") answer).2 = .ok (String.join texts) := by
  intro c texts chunks answer
  have sent : (c.stream "http://localhost" [] (reviewOptions "m") answer).1.isSome := by decide +kernel
  have chars : " \"é😀\n".toList = [' ', '"', 'é', '😀', '\n'] := by decide +kernel
  have space : Json.Spells ' ' [' '] := .plain (by decide) (by decide) (by decide)
  have quote : Json.Spells '"' ['\\', '"'] := .letter rfl
  have acute : Json.Spells 'é' ['\\', 'u', '0', '0', 'e', '9'] := .number rfl
  have leads : Json.hex4? 'd' '8' '3' 'd' = some 0xD83D := rfl
  have trails : Json.hex4? 'D' 'E' '0' '0' = some 0xDE00 := rfl
  have face : Json.Spells '😀' _ := .pair leads trails (by decide) (by decide) (by decide)
  have newline : Json.Spells '\n' ['\\', 'n'] := .letter rfl
  have spelled := Json.SpellsText.cons space (.cons quote (.cons acute (.cons face (.cons newline .nil))))
  rw [← chars] at spelled
  have none_ : Json.Gap [] := by decide
  have gap : Json.Gap [' '] := by decide
  have denotes : Json.Denotes (payload " \"é😀\n") _ :=
    .obj (Json.spellsText_escapeChar _) (.arr (.obj (Json.spellsText_escapeChar _)
      (.obj (Json.spellsText_escapeChar _) (.str spelled) none_ none_ gap none_)
      none_ none_ gap none_) none_ none_) gap none_ gap none_
  have comment : Filler ": wait".toList := ⟨by decide, Or.inr ⟨" wait".toList, rfl⟩⟩
  have blank : Filler [' ', '\t'] := ⟨by decide, Or.inl (by decide)⟩
  have empty : Filler [] := ⟨by decide, Or.inl rfl⟩
  have encodes : Encodes true texts (chunks.flatMap String.toList) := by
    have built : Encodes true texts _ :=
      .filler comment (Or.inr rfl) (.text (denotes_payload _) (Or.inl rfl)
        (.filler blank (Or.inr rfl) (.text denotes (Or.inr rfl)
          (.filler empty (Or.inl rfl) (.done (Or.inr ⟨rfl, rfl⟩))))))
    convert built using 1
    decide +kernel +zetaReduce
  exact ⟨encodes, c.stream_encoded "http://localhost" [] (reviewOptions "m") sent (by decide)
    (by decide) (by decide) encodes⟩

end Requests

end Snippet.Chat
