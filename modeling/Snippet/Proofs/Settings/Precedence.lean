import Snippet.Proofs.Text.Decoding
import Snippet.Proofs.Text.Trimming
import Snippet.Settings

/-!
# Which value a key has

Defaults, a settings file and an environment are three layers of one table. `Settings.Given` says without
the table which value a key has: the last variable of the environment that names it, if the environment
may set it; else what the last line of the file that binds it says (`Settings.Binds`); else its default.
`Settings.get?_ofProcess`: that is the value that is found. Variables that are no settings do not matter,
but for the directory of temporary files, which the default of one key is made of.
-/

namespace Snippet.Settings

open Text

/-! ## Layers -/

theorem get?_set (s : Settings) (key value name : String) :
    (s.set key value).get? name = if key = name then some value else s.get? name := by
  rw [get?, set, List.find?_cons]
  by_cases same : key = name
  · rw [if_pos same, beq_iff_eq.mpr same]
    rfl
  · have others : (s.bindings.filter fun b => b.1 != key).find? (fun b => b.1 == name) =
        s.bindings.find? fun b => b.1 == name := by
      rw [List.find?_filter]
      congr 1
      funext b
      by_cases found : b.1 = name
      · simp [found, Ne.symm same]
      · simp [found]
    rw [if_neg same, beq_eq_false_iff_ne.mpr same, others]
    rfl

/-- The settings after an item that may bind a key. -/
def assign {α : Type} (bound? : α → Option (String × String)) (s : Settings) (item : α) : Settings :=
  match bound? item with
  | some (key, value) => s.set key value
  | none => s

/-- The last of the items that bind anything binds it to the value. -/
def Latest {α : Type} (binds : α → String → Prop) (items : List α) (value : String) : Prop :=
  ∃ before item behind, items = before ++ item :: behind ∧ binds item value ∧
    ∀ later ∈ behind, ∀ other, ¬ binds later other

section Layer

variable {α : Type} {bound? : α → Option (String × String)} {s s' : Settings} {items : List α}
  {key value : String}

theorem get?_assign (s : Settings) (item : α) (key : String) : (s.assign bound? item).get? key =
    match bound? item with
    | some (name, value) => if name = key then some value else s.get? key
    | none => s.get? key := by
  rw [assign]
  cases bound? item with
  | none => rfl
  | some b => exact get?_set s b.1 b.2 key

/-- What no item binds stays as it was. -/
theorem get?_of_unbound (unbound : ∀ item ∈ items, ∀ value, bound? item ≠ some (key, value))
    (s : Settings) : (items.foldl (assign bound?) s).get? key = s.get? key := by
  induction items generalizing s with
  | nil => rfl
  | cons item items ih =>
    obtain ⟨first, later⟩ := List.forall_mem_cons.mp unbound
    rw [List.foldl_cons, ih later, get?_assign]
    cases binds : bound? item with
    | none => rfl
    | some b =>
      refine if_neg fun same => first b.2 ?_
      rw [binds, ← same]

/-- The last item that binds the key decides. -/
theorem get?_of_latest (latest : Latest (fun item x => bound? item = some (key, x)) items value)
    (s : Settings) : (items.foldl (assign bound?) s).get? key = some value := by
  obtain ⟨before, item, behind, rfl, binds, last⟩ := latest
  rw [List.foldl_append, List.foldl_cons, get?_of_unbound last, get?_assign, binds]
  exact if_pos rfl

theorem latest_or_unbound (binds : α → String → Prop) (items : List α) :
    (∃ value, Latest binds items value) ∨ ∀ item ∈ items, ∀ value, ¬ binds item value := by
  induction items with
  | nil => exact Or.inr nofun
  | cons item items ih =>
    rcases ih with ⟨value, before, found, behind, rfl, latest⟩ | unbound
    · exact Or.inl ⟨value, item :: before, found, behind, rfl, latest⟩
    · by_cases first : ∃ value, binds item value
      · obtain ⟨value, first⟩ := first
        exact Or.inl ⟨value, [], item, items, rfl, first, unbound⟩
      · exact Or.inr (List.forall_mem_cons.mpr ⟨fun value is => first ⟨value, is⟩, unbound⟩)

/-- A layer as a table of its own: its last entry for a key counts, and where it has none the settings before
it do. -/
theorem get?_foldl_assign (bound? : α → Option (String × String)) (items : List α) (s : Settings)
    (key : String) : (items.foldl (assign bound?) s).get? key =
      ((items.filterMap bound?).reverse.lookup key).or (s.get? key) := by
  induction items generalizing s with
  | nil => rfl
  | cons item items ih =>
    rw [List.foldl_cons, ih, get?_assign]
    cases binds : bound? item with
    | none => rw [List.filterMap_cons_none binds]
    | some b =>
      rw [List.filterMap_cons_some binds, List.reverse_cons, List.lookup_append, Option.or_assoc,
        List.lookup_cons, List.lookup_nil]
      congr 1
      by_cases same : b.1 = key
      · rw [beq_iff_eq.mpr same.symm]
        exact if_pos same
      · rw [beq_eq_false_iff_ne.mpr (Ne.symm same)]
        exact if_neg same

/-- What the settings before a layer say of other keys does not matter to a key. -/
theorem get?_foldl_congr (same : s.get? key = s'.get? key) (items : List α) :
    (items.foldl (assign bound?) s).get? key = (items.foldl (assign bound?) s').get? key := by
  induction items generalizing s s' with
  | nil => exact same
  | cons item items ih =>
    rw [List.foldl_cons, List.foldl_cons]
    refine ih ?_
    rw [get?_assign, get?_assign, same]

end Layer

/-! ## The file -/

/-- The line binds the key: it is no comment, and the key is what stands before the first equals sign and
the value what stands behind it, blanks around either aside. -/
def Binds (line : List Char) (key value : String) : Prop :=
  (∀ text, trimStartChars line ≠ '#' :: text) ∧ ∃ before behind,
    line = before ++ '=' :: behind ∧ '=' ∉ before ∧ trimChars before = key.toList ∧
      trimChars behind = value.toList

variable {line before behind : List Char} {key value : String}

theorem binding?_cut (fresh : '=' ∉ before) (behind : List Char) :
    binding? (before ++ '=' :: behind) =
      if (trimStartChars (before ++ '=' :: behind)).head? = some '#' then none
      else some (String.ofList (trimChars before), String.ofList (trimChars behind)) := by
  have solid : isBlank '=' = false := by decide
  have fresh' : '=' ∉ trimStartChars before := fun mem =>
    fresh ((List.dropWhile_sublist isBlank).subset mem)
  have first : (trimStartChars before ++ '=' :: trimEndChars behind).head? =
      (trimStartChars before ++ '=' :: behind).head? := by
    cases trimStartChars before <;> rfl
  have some_ : (trimStartChars before ++ '=' :: trimEndChars behind).isEmpty = false := by
    cases trimStartChars before <;> rfl
  rw [binding?, trimChars_append_cons solid, trimStartChars_append_cons solid]
  dsimp only
  rw [some_, Bool.false_or, first, cutAt?_append fresh', Option.map_some, trimChars_trimStartChars,
    trimChars_trimEndChars]
  simp only [beq_iff_eq]

theorem binding?_eq_some_iff : binding? line = some (key, value) ↔ Binds line key value := by
  constructor
  · intro binds
    have cut : '=' ∈ line := by
      by_contra fresh
      have fresh' : '=' ∉ trimChars line := fun mem => fresh (mem_of_mem_trimChars mem)
      rw [binding?, cutAt?_eq_none fresh'] at binds
      simp at binds
    obtain ⟨before, behind, rfl, fresh⟩ := List.eq_append_cons_of_mem cut
    rw [binding?_cut fresh] at binds
    split at binds
    next => cases binds
    next noHash =>
      cases binds
      refine ⟨fun text comment => noHash ?_, before, behind, rfl, fresh, ?_, ?_⟩
      · rw [comment]
        rfl
      · rw [String.toList_ofList]
      · rw [String.toList_ofList]
  · rintro ⟨noComment, before, behind, rfl, fresh, name, text⟩
    have noHash : ¬ (trimStartChars (before ++ '=' :: behind)).head? = some '#' := fun hash => by
      obtain ⟨text, eq⟩ := List.head?_eq_some_iff.mp hash
      exact noComment text eq
    rw [binding?_cut fresh, if_neg noHash, name, text, String.ofList_toList, String.ofList_toList]

/-- The lines of a settings file, if there is one. -/
def linesIn (file : Option String) : List (List Char) :=
  file.elim [] fun text => records '\n' text.toList

/-- All lines of a file that is UTF-8 are read. -/
theorem readableLines_encode (text : String) :
    readableLines (Utf8.encode text) = records '\n' text.toList := by
  have decoded : (records 10 (Utf8.encode text)).map Utf8.decode? =
      (records '\n' text.toList).map some := by
    rw [Utf8.records_encode, List.map_map]
    refine List.map_congr_left fun line _ => ?_
    have bytes := Utf8.decode?_encode (String.ofList line)
    rwa [Utf8.encode_ofList, String.toList_ofList] at bytes
  rw [readableLines, decoded, List.takeWhile_eq_self_iff.mpr, List.filterMap_map]
  · exact List.filterMap_some
  · intro line mem
    obtain ⟨chars, _, rfl⟩ := List.mem_map.mp mem
    rfl

/-! ## The environment -/

/-- The environment may set the key: it is one of the known ones or begins as those do that are. -/
def Configures (key : String) : Prop :=
  key ∈ keys ∨ "NEONCODE_".toList <+: key.toList ∨ "OPENAI_".toList <+: key.toList

theorem isKey_iff : isKey key = true ↔ Configures key := by
  rw [isKey, Bool.or_eq_true, Bool.or_eq_true, List.contains_iff_mem, startsWith, startsWith,
    List.isPrefixOf_iff_prefix, List.isPrefixOf_iff_prefix, or_assoc]
  rfl

instance (key : String) : Decidable (Configures key) := decidable_of_iff _ isKey_iff

/-- What a variable of the environment binds. -/
def configured? (v : String × String) : Option (String × String) := if isKey v.1 then some v else none

theorem configured?_eq_some_iff {v b : String × String} :
    configured? v = some b ↔ Configures b.1 ∧ v = b := by
  rw [configured?, ← isKey_iff]
  constructor
  · intro eq
    split at eq
    next is =>
      cases eq
      exact ⟨is, rfl⟩
    next => cases eq
  · rintro ⟨is, rfl⟩
    exact if_pos is

theorem applyEnvironment_eq (s : Settings) (environment : List (String × String)) :
    s.applyEnvironment environment = environment.foldl (assign configured?) s := by
  have each : ∀ s v, (if isKey v.1 then set s v.1 v.2 else s) = assign configured? s v := by
    intro s v
    rw [assign, configured?]
    cases isKey v.1 <;> rfl
  simp only [applyEnvironment, each]

/-- Only variables that are settings matter. -/
theorem applyEnvironment_filter (s : Settings) (environment : List (String × String)) :
    s.applyEnvironment (environment.filter (Configures ·.1)) = s.applyEnvironment environment := by
  have same : ∀ v : String × String, decide (Configures v.1) = isKey v.1 := fun v => by
    rw [Bool.eq_iff_iff, decide_eq_true_iff, isKey_iff]
  simp only [applyEnvironment, same]
  rw [List.foldl_filter]
  refine List.foldl_ext _ _ s fun s v _ => ?_
  cases isKey v.1 <;> rfl

/-! ## All layers -/

variable {environment : List (String × String)} {lines : List (List Char)} {temporary : String}
  {file : Option String} {o : Option String}

/-- The value that a key has by its layers, if it has one. -/
inductive Given (temporary : String) (lines : List (List Char)) (environment : List (String × String))
    (key : String) : Option String → Prop
  /-- the last variable of that name -/
  | environment {value : String} (configures : Configures key)
      (latest : Latest (fun v x => v = (key, x)) environment value) :
      Given temporary lines environment key (some value)
  /-- the last line that binds the key -/
  | file {value : String} (unset : Configures key → ∀ x, (key, x) ∉ environment)
      (latest : Latest (fun line x => Binds line key x) lines value) :
      Given temporary lines environment key (some value)
  /-- the default, if there is one -/
  | default (unset : Configures key → ∀ x, (key, x) ∉ environment)
      (unbound : ∀ line ∈ lines, ∀ x, ¬ Binds line key x) :
      Given temporary lines environment key ((defaults temporary).get? key)

theorem exists_given (temporary : String) (lines : List (List Char))
    (environment : List (String × String)) (key : String) :
    ∃ o, Given temporary lines environment key o := by
  by_cases sets : Configures key ∧ ∃ x, (key, x) ∈ environment
  · obtain ⟨configures, x, mem⟩ := sets
    rcases latest_or_unbound (fun v x => v = (key, x)) environment with ⟨value, latest⟩ | unbound
    · exact ⟨_, .environment configures latest⟩
    · exact absurd rfl (unbound _ mem x)
  · have unset : Configures key → ∀ x, (key, x) ∉ environment := fun configures x mem =>
      sets ⟨configures, x, mem⟩
    rcases latest_or_unbound (fun line x => Binds line key x) lines with ⟨value, latest⟩ | unbound
    · exact ⟨_, .file unset latest⟩
    · exact ⟨_, .default unset unbound⟩

theorem load_eq (temporary : String) (file : Option String) (environment : List (String × String)) :
    load temporary (file.map Utf8.encode) environment =
      environment.foldl (assign configured?) ((linesIn file).foldl (assign binding?)
        (defaults temporary)) := by
  have layers : load temporary (file.map Utf8.encode) environment =
      ((linesIn file).foldl (assign binding?) (defaults temporary)).applyEnvironment environment := by
    cases file with
    | none => rfl
    | some text =>
      have lines : linesIn (some text) = readableLines (Utf8.encode text) :=
        (readableLines_encode text).symm
      rw [lines]
      rfl
  rw [layers, applyEnvironment_eq]

/-- The value that a key has by its layers is found. -/
theorem Given.get?_load (given : Given temporary (linesIn file) environment key o) :
    (load temporary (file.map Utf8.encode) environment).get? key = o := by
  have silent : (Configures key → ∀ x, (key, x) ∉ environment) →
      ∀ v ∈ environment, ∀ x, configured? v ≠ some (key, x) := by
    intro unset v mem x binds
    obtain ⟨configures, rfl⟩ := configured?_eq_some_iff.mp binds
    exact unset configures x mem
  rw [load_eq]
  cases given with
  | environment configures latest =>
    obtain ⟨before, v, behind, rfl, is, last⟩ := latest
    refine get?_of_latest ⟨before, v, behind, rfl, configured?_eq_some_iff.mpr ⟨configures, is⟩, ?_⟩ _
    exact fun later mem x binds => last later mem x (configured?_eq_some_iff.mp binds).2
  | file unset latest =>
    simp only [← binding?_eq_some_iff] at latest
    rw [get?_of_unbound (silent unset), get?_of_latest latest]
  | default unset unbound =>
    simp only [← binding?_eq_some_iff] at unbound
    rw [get?_of_unbound (silent unset), get?_of_unbound unbound]

theorem get?_load_eq_iff : (load temporary (file.map Utf8.encode) environment).get? key = o ↔
    Given temporary (linesIn file) environment key o := by
  constructor
  · rintro rfl
    obtain ⟨o, given⟩ := exists_given temporary (linesIn file) environment key
    rw [given.get?_load]
    exact given
  · exact Given.get?_load

theorem load_filter (temporary : String) (file : Option (List UInt8))
    (environment : List (String × String)) :
    load temporary file (environment.filter (Configures ·.1)) = load temporary file environment :=
  applyEnvironment_filter _ environment

/-- Only the place of previews depends on the directory of temporary files. -/
theorem get?_defaults_congr (temporary temporary' : String) (other : key ≠ "PREVIEW_PATH") :
    (defaults temporary).get? key = (defaults temporary').get? key := by
  simp only [defaults, get?, List.find?_cons, beq_eq_false_iff_ne.mpr (Ne.symm other)]

theorem get?_load_congr {temporary' : String} (file : Option String)
    (environment : List (String × String)) (other : temporary = temporary' ∨ key ≠ "PREVIEW_PATH") :
    (load temporary (file.map Utf8.encode) environment).get? key =
      (load temporary' (file.map Utf8.encode) environment).get? key := by
  rcases other with rfl | other
  · rfl
  · rw [load_eq, load_eq]
    exact get?_foldl_congr (get?_foldl_congr (get?_defaults_congr temporary temporary' other) _) _

/-- Every key that has a default is one that the environment may set. -/
theorem configures_of_default (has : (defaults temporary).get? key ≠ none) : Configures key := by
  have names : (defaults temporary).bindings.map Prod.fst ⊆ keys := by simp [defaults, keys]
  obtain ⟨value, has⟩ := Option.ne_none_iff_exists'.mp has
  obtain ⟨b, found, _⟩ := Option.map_eq_some_iff.mp has
  have is := List.find?_some found
  rw [beq_iff_eq] at is
  exact Or.inl (is ▸ names (List.mem_map_of_mem (List.mem_of_find?_eq_some found)))

/-- A key has the value of the last variable of that name if the environment may set it and does, else
that of the last line of the file that binds it, else its default. Variables that are no settings change
nothing, as long as the directory of temporary files stays the same; if that changes, the default of
`PREVIEW_PATH` may. Every default can be overridden by a variable. -/
theorem get?_ofProcess (file : Option String) (environment : List (String × String)) (key : String) :
    (∀ o, (ofProcess (file.map Utf8.encode) environment).get? key = o ↔
      Given (temporaryDirectory environment) (linesIn file) environment key o) ∧
    (∀ environment', environment'.filter (Configures ·.1) = environment.filter (Configures ·.1) →
      temporaryDirectory environment' = temporaryDirectory environment ∨ key ≠ "PREVIEW_PATH" →
      (ofProcess (file.map Utf8.encode) environment').get? key =
        (ofProcess (file.map Utf8.encode) environment).get? key) ∧
    ((defaults (temporaryDirectory environment)).get? key ≠ none → Configures key ∧
      ∀ value, (ofProcess (file.map Utf8.encode) (environment ++ [(key, value)])).get? key =
        some value) := by
  refine ⟨fun o => get?_load_eq_iff, fun environment' same other => ?_, fun has => ?_⟩
  · have layers : ∀ temporary, load temporary (file.map Utf8.encode) environment' =
        load temporary (file.map Utf8.encode) environment := by
      intro temporary
      rw [← load_filter, same, load_filter]
    rw [ofProcess, ofProcess, layers]
    exact get?_load_congr file environment other
  · have configures := configures_of_default has
    refine ⟨configures, fun value => get?_load_eq_iff.mpr (.environment configures ?_)⟩
    exact ⟨environment, (key, value), [], rfl, rfl, nofun⟩

-- a comment, a key that is bound twice, a value with an equals sign, and a variable that is no setting
example :
    let file := "# DEFAULT_MODEL=a\nDEFAULT_MODEL = b \r\nDEFAULT_MODEL=c=d\nPATH=e\nAUTO_PREVIEW"
    let settings := ofProcess (some (Utf8.encode file)) [("PATH", "/bin"), ("AUTO_PREVIEW", "false")]
    settings.get? "DEFAULT_MODEL" = some "c=d" ∧ settings.get? "PATH" = some "e" ∧
      settings.get? "AUTO_PREVIEW" = some "false" := by
  decide +kernel

/-- A variable that is no setting decides where previews are written by default. -/
theorem previewIn_of_tmpdir :
    ¬ Configures "TMPDIR" ∧
      (ofProcess none [("TMPDIR", "/var/tmp")]).get? "PREVIEW_PATH" =
        some "/var/tmp/neoncode/preview.html" ∧
      (ofProcess none []).get? "PREVIEW_PATH" = some "/tmp/neoncode/preview.html" := by
  decide

end Snippet.Settings
