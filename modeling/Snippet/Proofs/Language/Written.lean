import Snippet.Dispatch
import Snippet.Proofs.Json.RoundTrip
import Snippet.Proofs.Text.Case

/-!
# Languages that are written and read again

A language is written as its tag and read as a tag is. Tags that were read are written in the form in
which they are read again, so a language that came from a tag survives. A language that came from a file
extension need not: extensions have names of their own, and are not trimmed.
`Language.survives_iff` says which survive, which of those that do not are run elsewhere, and which tags two
languages share.
-/

namespace Snippet.Language

open Text

variable {l : Language} {s name tag extension : String}

/-- The names of the languages that have a backend of their own. -/
def names : List String :=
  ["javascript", "js", "node", "python", "py", "python3", "html", "htm", "css"]

/-- The extensions of the languages that have a backend of their own. -/
def extensions : List String := ["js", "mjs", "cjs", "py", "html", "htm", "css"]

/-- The names of languages that are no extensions of theirs. -/
def misread : List String := ["javascript", "node", "python", "python3"]

/-- The language was made of a tag or of a file extension. -/
def Made (l : Language) : Prop := ∃ text, l = ofTag text ∨ l = ofExtension text

/-! ## Tags and extensions -/

theorem ofTag_eq_other_iff :
    ofTag tag = .other name ↔ name = lowerAscii (trim tag) ∧ name ∉ names := by
  unfold ofTag names
  generalize lowerAscii (trim tag) = low
  dsimp only
  split_ifs with script interpreter markup style
  · rcases script with rfl | rfl | rfl <;> simp +contextual
  · rcases interpreter with rfl | rfl | rfl <;> simp +contextual
  · rcases markup with rfl | rfl <;> simp +contextual
  · simp +contextual [style]
  · simp only [not_or] at script interpreter markup
    constructor
    · rintro ⟨⟩
      simp [script, interpreter, markup, style]
    · rintro ⟨rfl, _⟩
      rfl

theorem ofExtension_eq_other_iff :
    ofExtension extension = .other name ↔ name = lowerAscii extension ∧ name ∉ extensions := by
  unfold ofExtension extensions
  generalize lowerAscii extension = low
  dsimp only
  split_ifs with script interpreter markup style
  · rcases script with rfl | rfl | rfl <;> simp +contextual
  · simp +contextual [interpreter]
  · rcases markup with rfl | rfl <;> simp +contextual
  · simp +contextual [style]
  · simp only [not_or] at script markup
    constructor
    · rintro ⟨⟩
      simp [script, interpreter, markup, style]
    · rintro ⟨rfl, _⟩
      rfl

/-- A language with a backend of its own is found by its tag. -/
theorem ofTag_tag (known : l.isKnown) : ofTag l.tag = l := by
  cases l with
  | other => cases known
  | _ => decide

/-- What was read from a tag is read again from its own. -/
theorem ofTag_tag_ofTag (tag : String) : ofTag (ofTag tag).tag = ofTag tag := by
  cases made : ofTag tag with
  | other name =>
    obtain ⟨rfl, unknown⟩ := ofTag_eq_other_iff.mp made
    refine ofTag_eq_other_iff.mpr ⟨?_, unknown⟩
    rw [Language.tag, ← lowerAscii_trim, trim_trim, lowerAscii_lowerAscii]
  | _ => exact ofTag_tag rfl

/-- A name in lower case is read as it stands exactly if there is nothing to trim and it is not that of a
language with a backend of its own. -/
theorem ofTag_lowerAscii_iff (s : String) :
    ofTag (lowerAscii s) = .other (lowerAscii s) ↔ trim s = s ∧ lowerAscii s ∉ names := by
  rw [ofTag_eq_other_iff, lowerAscii_trim, lowerAscii_lowerAscii, eq_comm,
    trim_lowerAscii_eq_self_iff]

theorem mem_names_iff (other : name ∉ extensions) : name ∈ names ↔ name ∈ misread := by
  simp only [extensions, List.mem_cons, List.not_mem_nil, or_false, not_or] at other
  simp [names, misread, other]

theorem isKnown_ofTag_iff : (ofTag tag).isKnown = true ↔ lowerAscii (trim tag) ∈ names := by
  cases made : ofTag tag with
  | other name =>
    obtain ⟨rfl, unknown⟩ := ofTag_eq_other_iff.mp made
    exact iff_of_false Bool.false_ne_true unknown
  | _ =>
    refine iff_of_true rfl (by_contra fun unknown => ?_)
    rw [ofTag_eq_other_iff.mpr ⟨rfl, unknown⟩] at made
    cases made

theorem isKnown_ofExtension_iff :
    (ofExtension extension).isKnown = true ↔ lowerAscii extension ∈ extensions := by
  cases made : ofExtension extension with
  | other name =>
    obtain ⟨rfl, unknown⟩ := ofExtension_eq_other_iff.mp made
    exact iff_of_false Bool.false_ne_true unknown
  | _ =>
    refine iff_of_true rfl (by_contra fun unknown => ?_)
    rw [ofExtension_eq_other_iff.mpr ⟨rfl, unknown⟩] at made
    cases made

theorem ofExtension_of_not_mem (unknown : lowerAscii extension ∉ extensions) :
    ofExtension extension = .other (lowerAscii extension) :=
  ofExtension_eq_other_iff.mpr ⟨rfl, unknown⟩

/-- An extension of a language with a backend of its own has nothing around it and is no other name. -/
theorem kept_of_mem_extensions (mem : lowerAscii extension ∈ extensions) :
    trim extension = extension ∧ lowerAscii extension ∉ misread := by
  have all : ∀ e ∈ extensions, trim e = e ∧ e ∉ misread := by decide
  obtain ⟨trimmed, other⟩ := all _ mem
  exact ⟨(trim_lowerAscii_eq_self_iff extension).mp trimmed, other⟩

/-- What was made of an extension is read again from its tag exactly if there is nothing to trim and the
extension is not a name of another kind. -/
theorem ofTag_tag_ofExtension_iff (extension : String) :
    ofTag (ofExtension extension).tag = ofExtension extension ↔
      trim extension = extension ∧ lowerAscii extension ∉ misread := by
  by_cases mem : lowerAscii extension ∈ extensions
  · exact iff_of_true (ofTag_tag (isKnown_ofExtension_iff.mpr mem)) (kept_of_mem_extensions mem)
  · rw [ofExtension_of_not_mem mem, ← mem_names_iff mem]
    exact ofTag_lowerAscii_iff extension

/-! ## Backends -/

theorem backend_eq_outline_iff : l.backend = .outline ↔ ¬ l.isKnown = true := by
  cases l <;> simp [backend, isKnown]

/-- What was made of an extension is run where its tag is, unless the tag names a language that the
extension does not stand for. -/
theorem backend_ofTag_ofExtension_iff (extension : String) :
    (ofTag (ofExtension extension).tag).backend = (ofExtension extension).backend ↔
      lowerAscii extension ∈ extensions ∨ lowerAscii (trim extension) ∉ names := by
  by_cases mem : lowerAscii extension ∈ extensions
  · exact iff_of_true (congrArg backend (ofTag_tag (isKnown_ofExtension_iff.mpr mem))) (Or.inl mem)
  · have outline : (other (lowerAscii extension)).backend = .outline := rfl
    rw [ofExtension_of_not_mem mem, outline, backend_eq_outline_iff, Language.tag, isKnown_ofTag_iff,
      ← lowerAscii_trim, lowerAscii_lowerAscii]
    exact (or_iff_right mem).symm

theorem get?_cons_of_unnamed {ms : List (String × Json String)} (unnamed : ∀ m ∈ ms, m.1 ≠ name)
    (v : Json String) : Json.get? (.obj ((name, v) :: ms)) name = some v := by
  have none_ : ms.reverse.find? (fun m => m.1 == name) = none := by
    rw [List.find?_eq_none]
    intro m mem
    simpa using unnamed m (List.mem_reverse.mp mem)
  rw [Json.get?, List.reverse_cons, List.find?_append, none_, Option.none_or, List.find?_singleton,
    beq_self_eq_true]
  rfl

/-- A result says in which language its request was. -/
theorem get?_language (r : RunResult) : r.toJson.get? "language" = some r.language.toJson := by
  refine get?_cons_of_unnamed ?_ _
  rintro ⟨key, value⟩ mem rfl
  simp at mem

/-! ## Languages in JSON -/

theorem read?_written (l : Language) : read? l.written = some (ofTag l.tag) := by
  have text : Json.readText l.written = some (.str l.tag) := by
    rw [Json.readText, Json.read, written, Json.compact, String.toList_ofList,
      Json.readChars_write Json.report_legible (by simp [toJson]), toJson, Json.respell,
      Option.bind_some, Json.host?, Points.toString?_ofString]
    rfl
  rw [read?, text]
  rfl

/-! ## Tags that are shared -/

theorem mem_of_known (known : l.isKnown = true) : l.tag ∈ ["javascript", "python", "html", "css"] := by
  cases l with
  | other => cases known
  | _ => decide

/-- A language without a backend of its own that has the tag of one with one was made of the extension
`javascript` or `python`. -/
theorem tag_of_shared {l' : Language} (made : l.Made) (unknown : ¬ l.isKnown = true)
    (known : l'.isKnown = true) (same : l.tag = l'.tag) : l.tag = "javascript" ∨ l.tag = "python" := by
  have mem := mem_of_known known
  rw [← same] at mem
  cases l with
  | other name =>
    have name_mem : name ∈ ["javascript", "python", "html", "css"] := mem
    obtain ⟨text, made | made⟩ := made
    · have fresh := (ofTag_eq_other_iff.mp made.symm).2
      have all : ∀ n ∈ ["javascript", "python", "html", "css"], n ∈ names := by decide
      exact absurd (all name name_mem) fresh
    · have fresh := (ofExtension_eq_other_iff.mp made.symm).2
      have all : ∀ n ∈ ["javascript", "python", "html", "css"], n ∉ extensions →
          n = "javascript" ∨ n = "python" := by decide
      exact all name name_mem fresh
  | _ => exact absurd rfl unknown

theorem shared_iff (t : String) :
    (∃ l l', Made l ∧ Made l' ∧ l ≠ l' ∧ l.tag = t ∧ l'.tag = t) ↔ t = "javascript" ∨ t = "python" := by
  constructor
  · rintro ⟨l, l', made, made', apart, rfl, same⟩
    by_cases known : l.isKnown = true
    · by_cases known' : l'.isKnown = true
      · rw [← ofTag_tag known, ← ofTag_tag known', same] at apart
        exact absurd rfl apart
      · rw [← same]
        exact tag_of_shared made' known' known same
    · by_cases known' : l'.isKnown = true
      · exact tag_of_shared made known known' same.symm
      · cases l with
        | other name =>
          cases l' with
          | other name' => exact absurd (congrArg other same.symm) apart
          | _ => exact absurd rfl known'
        | _ => exact absurd rfl known
  · have both : ∀ n ∈ ["javascript", "python"],
        ofTag n ≠ ofExtension n ∧ (ofTag n).tag = n ∧ (ofExtension n).tag = n := by decide
    rintro (rfl | rfl)
    · exact ⟨_, _, ⟨_, Or.inl rfl⟩, ⟨_, Or.inr rfl⟩, both "javascript" (by decide)⟩
    · exact ⟨_, _, ⟨_, Or.inl rfl⟩, ⟨_, Or.inr rfl⟩, both "python" (by decide)⟩

/-- The language that was made of any text as a tag is read again as it was written. The one that was made
of the text as a file extension is exactly if there are no blanks around the text and it is not a name of a
language that is no extension of it; what runs it is the same exactly if the extension stands for a language
with a backend or is not read as the name of one. Two languages share the text as their tag exactly if it is
`javascript` or `python`. -/
theorem survives_iff (text : String) :
    read? (ofTag text).written = some (ofTag text) ∧
    (read? (ofExtension text).written = some (ofExtension text) ↔
      trim text = text ∧ lowerAscii text ∉ misread) ∧
    (∀ (b : Backends) (source : String) (stdin : List String) (ms : Float),
      let result := b.result ⟨source, ofExtension text, stdin⟩ ms
      ((result.toJson.get? "language").bind ofJson?).map backend = some (ofExtension text).backend ↔
        lowerAscii text ∈ extensions ∨ lowerAscii (trim text) ∉ names) ∧
    ((∃ l l', Made l ∧ Made l' ∧ l ≠ l' ∧ l.tag = text ∧ l'.tag = text) ↔
      text = "javascript" ∨ text = "python") := by
  refine ⟨?_, ?_, fun b source stdin ms => ?_, shared_iff text⟩
  · rw [read?_written, ofTag_tag_ofTag]
  · rw [read?_written, Option.some_inj, ofTag_tag_ofExtension_iff]
  · intro result
    rw [get?_language, Option.bind_some, toJson, ofJson?, Option.map_some, Option.some_inj]
    exact backend_ofTag_ofExtension_iff text

/-- A file with the extension `python` is not run by the interpreter, but its result says that it was. -/
theorem ofExtension_python_lost :
    read? (ofExtension "python").written = some .python ∧ ofExtension "python" = .other "python" ∧
      (ofTag "python").tag = (ofExtension "python").tag ∧ ofTag "python" ≠ ofExtension "python" ∧
      (ofTag "python").backend = .interpreter ∧ (ofExtension "python").backend = .outline := by
  rw [read?_written]
  decide

end Snippet.Language
