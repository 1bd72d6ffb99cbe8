import Mathlib.Tactic.Common
import Snippet.Chat.Client
import Snippet.Proofs.Chat.Content
import Snippet.Proofs.Text.Decoding

/-!
# Streams in chunks

`Chat.Client.stream_of_whole`: it does not matter how the body of an answer is cut into chunks, as
long as no cut falls inside a character. Each chunk is decoded by itself, so a character that is cut
becomes two or more replacement characters: where a body is nothing but content, the cut matters as
soon as it falls inside a character (`Chat.Client.stream_chunks_iff`).
-/

namespace Snippet.Chat

open Snippet.Text

/-! ## Bodies of content in chunks -/

/-- A byte that stands for itself between quotes, if it is no part of a longer character. -/
def Plain (b : UInt8) : Prop := 0x20 ≤ b.toNat ∧ b.toNat ≠ 0x22 ∧ b.toNat ≠ 0x5C

instance (b : UInt8) : Decidable (Plain b) :=
  inferInstanceAs (Decidable (0x20 ≤ b.toNat ∧ b.toNat ≠ 0x22 ∧ b.toNat ≠ 0x5C))

/-- The bytes of a line that carries content. -/
def lineBytes (content : List UInt8) : List UInt8 :=
  Utf8.encode prelude ++ (content ++ Utf8.encode postlude)

/-- The body is nothing but lines that carry plain content. It need not be UTF-8. -/
def ContentBody (body : List UInt8) : Prop :=
  ∃ contents : List (List UInt8), (∀ content ∈ contents, ∀ b ∈ content, Plain b) ∧
    body = contents.flatMap lineBytes

theorem escapeChar_of_plain {c : Char} (visible : 0x20 ≤ c.toNat) (quote : c.toNat ≠ 0x22)
    (backslash : c.toNat ≠ 0x5C) : Json.escapeChar c = [c] := by
  have none_ : Json.shortEscape c.toNat = none := by
    rw [Json.shortEscape, if_neg quote, if_neg backslash, if_neg (by omega), if_neg (by omega),
      if_neg (by omega), if_neg (by omega), if_neg (by omega)]
  rw [Json.escapeChar, none_]
  exact if_neg (by omega)

/-- Whatever plain bytes are decoded to stands for itself. -/
theorem unescaped_decoded {chunks : List (List UInt8)} (plain : ∀ b ∈ chunks.flatten, Plain b) :
    Unescaped (chunks.flatMap Utf8.decodeLossy) := by
  intro c mem
  obtain ⟨chunk, mem_chunk, mem⟩ := List.mem_flatMap.mp mem
  have visible : 0x20 ≤ c.toNat ∧ c.toNat ≠ 0x22 ∧ c.toNat ≠ 0x5C := by
    rcases Utf8.mem_decodeLossy mem with ⟨b, mem_byte, own⟩ | beyond
    · rw [own]
      exact plain b (List.mem_flatten.mpr ⟨chunk, mem_chunk, mem_byte⟩)
    · omega
  refine ⟨escapeChar_of_plain visible.1 visible.2.1 visible.2.2, ?_⟩
  rintro rfl
  exact absurd visible.1 (by decide)

/-- ASCII is decoded to itself, however it is cut. -/
theorem decode_ascii {chunks : List (List UInt8)} {s : String}
    (bytes : chunks.flatten = Utf8.encode s) (ascii : Utf8.Ascii s.toList) :
    chunks.flatMap Utf8.decodeLossy = s.toList := by
  have whole : Utf8.Whole chunks := by
    apply Utf8.whole_of_ascii
    rw [bytes, ← String.ofList_toList (s := s)]
    exact Utf8.encode_small ascii
  rw [(Utf8.decodeLossy_flatten_iff chunks).mpr whole, bytes, Utf8.decodeLossy_encode]

/-- However a line of content is cut, it is read as a line of content. -/
theorem exists_text {chunks : List (List UInt8)} {content : List UInt8}
    (plain : ∀ b ∈ content, Plain b) (line : chunks.flatten = lineBytes content) :
    ∃ s : String, Unescaped s.toList ∧
      chunks.flatMap Utf8.decodeLossy = contentLine s ++ ['\n'] := by
  have opened : Utf8.Apart (Utf8.encode prelude) (content ++ Utf8.encode postlude) := by
    have quote : Utf8.encode prelude = (Utf8.encode prelude).dropLast ++ [0x22] := by decide +kernel
    rw [quote]
    exact Utf8.apart_behind_ascii (by decide)
  have closed : Utf8.Apart content (Utf8.encode postlude) := by
    have quote : Utf8.encode postlude = 0x22 :: (Utf8.encode postlude).tail := by decide +kernel
    rw [quote]
    exact Utf8.apart_of_ascii (by decide)
  obtain ⟨before, rest, before_eq, rest_eq, cut⟩ := Utf8.exists_parts line opened
  obtain ⟨inside, behind, inside_eq, behind_eq, cut'⟩ := Utf8.exists_parts rest_eq closed
  have unescaped : Unescaped (inside.flatMap Utf8.decodeLossy) :=
    unescaped_decoded fun b mem => plain b (inside_eq ▸ mem)
  have start := decode_ascii before_eq (by decide)
  have stop := decode_ascii behind_eq (by decide)
  have own : (String.ofList (inside.flatMap Utf8.decodeLossy)).toList =
      inside.flatMap Utf8.decodeLossy :=
    String.toList_ofList
  rw [← own] at unescaped
  refine ⟨_, unescaped, ?_⟩
  rw [contentLine_of_unescaped unescaped, cut, cut', start, stop, own]

/-- However a body of content is cut, it is read as lines of content. -/
theorem exists_texts {contents : List (List UInt8)}
    (plain : ∀ content ∈ contents, ∀ b ∈ content, Plain b)
    {chunks : List (List UInt8)} (body : chunks.flatten = contents.flatMap lineBytes) :
    ∃ texts : List String, texts.length = contents.length ∧ (∀ s ∈ texts, Unescaped s.toList) ∧
      chunks.flatMap Utf8.decodeLossy = contentLines texts := by
  induction contents generalizing chunks with
  | nil =>
    have empty : Utf8.Whole chunks := Utf8.whole_of_ascii (by rw [body]; nofun)
    refine ⟨[], rfl, nofun, ?_⟩
    rw [(Utf8.decodeLossy_flatten_iff chunks).mpr empty, body]
    rfl
  | cons content contents ih =>
    have ended : Utf8.Apart (lineBytes content) (contents.flatMap lineBytes) := by
      have newline : lineBytes content = (Utf8.encode prelude ++ (content ++
          (Utf8.encode postlude).dropLast)) ++ [0x0A] := by
        have last : Utf8.encode postlude = (Utf8.encode postlude).dropLast ++ [0x0A] := by decide +kernel
        rw [lineBytes, List.append_assoc, List.append_assoc, ← last]
      rw [newline]
      exact Utf8.apart_behind_ascii (by decide)
    rw [List.flatMap_cons] at body
    obtain ⟨before, behind, before_eq, behind_eq, cut⟩ := Utf8.exists_parts body ended
    obtain ⟨s, unescaped, line⟩ := exists_text (plain content (List.mem_cons_self ..)) before_eq
    obtain ⟨texts, length, unescaped', lines⟩ :=
      ih (fun content mem => plain content (List.mem_cons_of_mem _ mem)) behind_eq
    refine ⟨s :: texts, congrArg Nat.succ length, ?_, ?_⟩
    · intro t mem
      rcases List.mem_cons.mp mem with rfl | mem
      · exact unescaped
      · exact unescaped' t mem
    · rw [cut, line, lines]
      rfl

/-- Where all that a body carries is content, the content shows whether a cut falls inside a
character. -/
theorem whole_of_content {chunks : List (List UInt8)} (body : ContentBody chunks.flatten) :
    ∃ pieces pieces' : List String,
      (∀ clean, events clean chunks =
        pieces.map .content ++ [if clean then .done else .failed brokenOff]) ∧
      (∀ clean, events clean [chunks.flatten] =
        pieces'.map .content ++ [if clean then .done else .failed brokenOff]) ∧
      (pieces.flatMap String.toList = pieces'.flatMap String.toList → Utf8.Whole chunks) := by
  obtain ⟨contents, plain, body⟩ := body
  obtain ⟨texts, length, unescaped, lines⟩ := exists_texts plain body
  have joint : [chunks.flatten].flatten = contents.flatMap lineBytes := by
    rw [← body, List.flatten_singleton]
  obtain ⟨texts', length', unescaped', lines'⟩ := exists_texts plain joint
  refine ⟨texts.flatMap pieceOf, texts'.flatMap pieceOf, fun clean => ?_, fun clean => ?_, ?_⟩
  · rw [events_eq_textEvents, lines, textEvents_contentLines]
  · rw [events_eq_textEvents, lines', textEvents_contentLines]
  · rw [toList_pieces, toList_pieces]
    intro same
    by_contra cut
    have longer := Utf8.length_decodeLossy_flatten_lt cut
    rw [List.flatMap_singleton] at lines'
    rw [lines, lines', length_contentLines unescaped, length_contentLines unescaped', same, length,
      length'] at longer
    exact Nat.lt_irrefl _ longer

theorem events_content_iff {chunks : List (List UInt8)} (body : ContentBody chunks.flatten)
    (clean : Bool) : events clean chunks = events clean [chunks.flatten] ↔ Utf8.Whole chunks := by
  refine ⟨fun same => ?_, fun whole => events_of_whole whole clean⟩
  obtain ⟨pieces, pieces', cut, joint, whole⟩ := whole_of_content body
  rw [cut, joint] at same
  have pieces_eq : pieces = pieces' :=
    (List.map_inj_right fun _ _ eq => Event.content.inj eq).mp (List.append_cancel_right same)
  exact whole (congrArg _ pieces_eq)

theorem collect_content_iff {chunks : List (List UInt8)} (body : ContentBody chunks.flatten) :
    Event.collect (events true chunks) = Event.collect (events true [chunks.flatten]) ↔
      Utf8.Whole chunks := by
  refine ⟨fun same => ?_, fun whole => by rw [events_of_whole whole]⟩
  obtain ⟨pieces, pieces', cut, joint, whole⟩ := whole_of_content body
  have texts := congrArg (Except.map String.toList) same
  rw [cut, joint, if_pos rfl, collect_contents, collect_contents] at texts
  exact whole (Except.ok.inj texts)

/-! ## Requests -/

section Requests

variable (c : Client) (server : String) (messages : List Message) (options : Options)

/-- Whether a request is sent does not depend on the answer; if it is, it comes to the events of the
answer. -/
theorem Client.stream_of_sent {response : Response}
    (sent : (c.stream server messages options response).1.isSome) (response' : Response) :
    c.stream server messages options response' =
      ((c.stream server messages options response).1, response'.events) := by
  rw [Client.stream] at sent
  rw [Client.stream, Client.stream]
  dsimp only at sent ⊢
  split
  next bad =>
    rw [if_pos bad] at sent
    cases sent
  next good =>
    rw [if_neg good] at sent
    split
    next nowhere =>
      rw [nowhere] at sent
      cases sent
    next => rfl

theorem Client.stream_congr {response response' : Response}
    (same : response.events = response'.events) :
    c.stream server messages options response = c.stream server messages options response' := by
  rw [Client.stream, Client.stream, same]

variable (status : Nat) (clean : Bool) (chunks : List (List UInt8))

/-- A request comes to the same for all ways to cut the body of the answer in which no cut falls
inside a character. -/
theorem Client.stream_of_whole (whole : Utf8.Whole chunks) :
    c.stream server messages options (.answered status chunks clean) =
      c.stream server messages options (.answered status [chunks.flatten] clean) := by
  refine c.stream_congr server messages options ?_
  rw [Response.events, Response.events, events_of_whole whole]

/-- How the body of an answer is cut matters only if a cut falls inside a character; and where the
body is nothing but content, it matters whenever one does. -/
theorem Client.stream_chunks_iff :
    (Utf8.Whole chunks →
      c.stream server messages options (.answered status chunks clean) =
          c.stream server messages options (.answered status [chunks.flatten] clean) ∧
        c.complete server messages options (.answered status chunks clean) =
          c.complete server messages options (.answered status [chunks.flatten] clean)) ∧
    ((c.stream server messages options (.answered status chunks clean)).1.isSome →
      isSuccessStatus status → ¬ isBodyless status → ContentBody chunks.flatten →
      (c.stream server messages options (.answered status chunks clean) =
          c.stream server messages options (.answered status [chunks.flatten] clean) ↔
        Utf8.Whole chunks) ∧
      (clean = true →
        (c.complete server messages options (.answered status chunks clean) =
            c.complete server messages options (.answered status [chunks.flatten] clean) ↔
          Utf8.Whole chunks))) := by
  refine ⟨fun whole => ?_, fun sent success bodied content => ?_⟩
  · have same := c.stream_of_whole server messages options status clean chunks whole
    exact ⟨same, by rw [Client.complete, Client.complete, same]⟩
  · have answer : ∀ chunks, (Response.answered status chunks clean).events = events clean chunks := by
      intro chunks
      simp [Response.events, success, bodied]
    have stream : ∀ chunks, c.stream server messages options (.answered status chunks clean) =
        (_, events clean chunks) := fun chunks => by
      rw [c.stream_of_sent server messages options sent, answer]
    refine ⟨?_, ?_⟩
    · rw [stream chunks, stream [chunks.flatten], Prod.mk.injEq, and_iff_right rfl]
      exact events_content_iff content clean
    · rintro rfl
      rw [Client.complete, Client.complete, stream chunks, stream [chunks.flatten], Prod.mk.injEq,
        and_iff_right rfl]
      exact collect_content_iff content

/-- A body of one line that carries `é`, cut between the two bytes of the character. -/
theorem Client.stream_chunks_iff_cut :
    let c : Client := ⟨"http://localhost/v1", none⟩
    let chunks := [Utf8.encode prelude ++ [0xC3], 0xA9 :: Utf8.encode postlude]
    (c.stream "http://localhost" [] (reviewOptions "m") (.answered 200 chunks true)).1.isSome ∧
      ContentBody chunks.flatten ∧
      (c.stream "http://localhost" [] (reviewOptions "m") (.answered 200 chunks true) =
          c.stream "http://localhost" [] (reviewOptions "m") (.answered 200 [chunks.flatten] true) ↔
        Utf8.Whole chunks) := by
  intro c chunks
  have sent : (c.stream "http://localhost" [] (reviewOptions "m")
      (.answered 200 chunks true)).1.isSome := by decide +kernel
  have content : ContentBody chunks.flatten :=
    ⟨[[0xC3, 0xA9]], by decide +kernel, by decide +kernel⟩
  have cuts := c.stream_chunks_iff "http://localhost" [] (reviewOptions "m") 200 true chunks
  exact ⟨sent, content, (cuts.2 sent (by decide) (by decide) content).1⟩

/-- The character is lost. -/
theorem Client.stream_cut_character :
    let c : Client := ⟨"http://localhost/v1", none⟩
    let chunks := [Utf8.encode prelude ++ [0xC3], 0xA9 :: Utf8.encode postlude]
    (c.stream "http://localhost" [] (reviewOptions "m") (.answered 200 chunks true)).2 =
        [.content "\uFFFD\uFFFD", .done] ∧
      (c.stream "http://localhost" [] (reviewOptions "m") (.answered 200 [chunks.flatten] true)).2 =
        [.content "é", .done] := by
  decide +kernel

end Requests

end Snippet.Chat
