import Snippet.Proofs.Settings.Lines

/-!
# Variables that are no settings

The environment of a process holds variables for other programs too. `ofRaw?_agree`: if two environments of
text agree on the variables that are settings, then the settings that hold are loaded in both and are the same,
whatever else the environments hold. Only the place of previews may differ: unless the settings file or the
environment tells it, it lies in the directory for temporary files, which a variable names that is no setting.
-/

namespace Snippet.Settings

open Text

/-- An environment of text as it is handed over. -/
def encodeEnvironment (environment : List (String × String)) : RawEnvironment :=
  environment.map fun v => (Utf8.encode v.1, Utf8.encode v.2)

variable {environment environment' : List (String × String)} {key : String}

theorem decodeEnvironment?_encode (environment : List (String × String)) :
    decodeEnvironment? (encodeEnvironment environment) = some environment := by
  induction environment with
  | nil => rfl
  | cons v environment ih =>
    obtain ⟨name, value⟩ := v
    rw [decodeEnvironment?] at ih ⊢
    rw [encodeEnvironment, List.map_cons, List.mapM_cons, ← encodeEnvironment, ih]
    simp [Utf8.decode?_encode]

/-! ## Layers -/

/-- A layer says the same of a key whatever was said before, or it says nothing. -/
theorem layer_cases {α : Type} (bound? : α → Option (String × String)) (items : List α) (key : String) :
    (∀ s s', (items.foldl (assign bound?) s).get? key = (items.foldl (assign bound?) s').get? key) ∨
      ∀ s, (items.foldl (assign bound?) s).get? key = s.get? key := by
  cases entry : (items.filterMap bound?).reverse.lookup key with
  | none => exact .inr fun s => by rw [get?_foldl_assign, entry, Option.none_or]
  | some value => exact .inl fun s s' => by rw [get?_foldl_assign, get?_foldl_assign, entry]; rfl

/-- Of the variables of an environment only those that are settings are entries of its layer. -/
theorem lookup_configured (environment : List (String × String)) (key : String) :
    (environment.filterMap configured?).lookup key =
      if Configures key then environment.lookup key else none := by
  induction environment with
  | nil => simp
  | cons v environment ih =>
    rw [List.lookup_cons]
    by_cases same : key = v.1
    · subst same
      by_cases configures : Configures v.1
      · rw [List.filterMap_cons_some (configured?_eq_some_iff.mpr ⟨configures, rfl⟩), List.lookup_cons,
          if_pos configures, beq_self_eq_true]
      · have none_ : configured? v = none := if_neg (isKey_iff.not.mpr configures)
        rw [List.filterMap_cons_none none_, ih, if_neg configures, if_neg configures]
    · have other : (key == v.1) = false := beq_eq_false_iff_ne.mpr same
      rw [other, ← ih]
      cases binds : configured? v with
      | none => rw [List.filterMap_cons_none binds]
      | some b =>
        obtain ⟨_, rfl⟩ := configured?_eq_some_iff.mp binds
        rw [List.filterMap_cons_some binds, List.lookup_cons, other]

/-- Environments that agree on what is a setting are one layer. -/
theorem get?_applyEnvironment_congr
    (agree : ∀ key, Configures key → environment.reverse.lookup key = environment'.reverse.lookup key)
    (s : Settings) (key : String) :
    (s.applyEnvironment environment).get? key = (s.applyEnvironment environment').get? key := by
  have entries : ∀ environment : List (String × String), (environment.filterMap configured?).reverse.lookup key =
      if Configures key then environment.reverse.lookup key else none := fun environment => by
    rw [← List.filterMap_reverse, lookup_configured]
  rw [applyEnvironment_eq, applyEnvironment_eq, get?_foldl_assign, get?_foldl_assign, entries, entries]
  by_cases configures : Configures key
  · rw [if_pos configures, if_pos configures, agree key configures]
  · rw [if_neg configures, if_neg configures]

/-! ## All layers -/

variable {temporary temporary' : String} {file : Option (List UInt8)}

/-- The settings after the settings file, if there is one. -/
def ofFile (temporary : String) (file : Option (List UInt8)) : Settings :=
  ((file.map heard).getD []).foldl (assign bound?) (defaults temporary)

theorem load_eq_ofFile (temporary : String) (file : Option (List UInt8))
    (environment : List (String × String)) :
    load temporary file environment = (ofFile temporary file).applyEnvironment environment := by
  cases file with
  | none => rfl
  | some content => rw [load, ofFile, Option.map_some, Option.getD_some, ← merge_eq]

/-- Where the directory for temporary files matters to a key, the key has its default. -/
theorem load_cases (temporary temporary' : String) (file : Option (List UInt8))
    (environment : List (String × String)) (key : String) :
    (load temporary file environment).get? key = (load temporary' file environment).get? key ∨
      (load temporary file environment).get? key = (defaults temporary).get? key ∧
        (load temporary' file environment).get? key = (defaults temporary').get? key := by
  rw [load_eq_ofFile, load_eq_ofFile, applyEnvironment_eq, applyEnvironment_eq]
  rcases layer_cases configured? environment key with said | silent
  · exact .inl (said _ _)
  · rw [silent, silent, ofFile, ofFile]
    rcases layer_cases bound? ((file.map heard).getD []) key with said | silent
    · exact .inl (said _ _)
    · exact .inr ⟨silent _, silent _⟩

/-- Whatever else two environments of text hold, if they agree on the variables that are settings, the settings
are loaded in both, and are the same: a key can only differ if it is the place of previews, has its default in
both, and the environments name different directories for temporary files. -/
theorem ofRaw?_agree (file : Option (List UInt8)) (environment environment' : List (String × String))
    (agree : ∀ key, Configures key → environment.reverse.lookup key = environment'.reverse.lookup key) :
    ∃ s s', ofRaw? file (encodeEnvironment environment) = some s ∧
      ofRaw? file (encodeEnvironment environment') = some s' ∧
      ∀ key, s.get? key = s'.get? key ∨
        key = "PREVIEW_PATH" ∧ temporaryDirectory environment ≠ temporaryDirectory environment' ∧
          s.get? key = some (previewIn (temporaryDirectory environment)) ∧
          s'.get? key = some (previewIn (temporaryDirectory environment')) := by
  have loaded : ∀ environment, ofRaw? file (encodeEnvironment environment) =
      some (ofProcess file environment) := fun environment => by
    rw [ofRaw?, decodeEnvironment?_encode, Option.map_some]
  refine ⟨_, _, loaded environment, loaded environment', fun key => ?_⟩
  -- but for the directory, the one environment can be taken for the other
  have same : (ofProcess file environment').get? key =
      (load (temporaryDirectory environment') file environment).get? key := by
    rw [ofProcess, load_eq_ofFile, load_eq_ofFile, get?_applyEnvironment_congr agree]
  rw [same, ofProcess]
  rcases load_cases (temporaryDirectory environment) (temporaryDirectory environment') file environment key
    with equal | ⟨default, default'⟩
  · exact .inl equal
  · rw [default, default']
    by_cases place : key = "PREVIEW_PATH" ∧
        temporaryDirectory environment ≠ temporaryDirectory environment'
    · obtain ⟨rfl, differ⟩ := place
      exact .inr ⟨rfl, differ, rfl, rfl⟩
    · rcases not_and_or.mp place with other | equal
      · exact .inl (get?_defaults_congr _ _ other)
      · rw [not_not.mp equal]
        exact .inl rfl

/-- Environments that differ in variables that are no settings, and one of which holds a setting twice. -/
theorem ofRaw?_agree_home :
    let environment := [("HOME", "/home/a"), ("DEFAULT_MODEL", "x"), ("DEFAULT_MODEL", "m")]
    let environment' := [("DEFAULT_MODEL", "m"), ("LANG", "C"), ("TMPDIR", "/scratch")]
    (∀ key, Configures key → environment.reverse.lookup key = environment'.reverse.lookup key) ∧
      ∃ s s', ofRaw? none (encodeEnvironment environment) = some s ∧
        ofRaw? none (encodeEnvironment environment') = some s' ∧
        s.get? "DEFAULT_MODEL" = s'.get? "DEFAULT_MODEL" := by
  intro environment environment'
  have agree : ∀ key, Configures key →
      environment.reverse.lookup key = environment'.reverse.lookup key := by
    intro key configures
    have other : ∀ name, ¬ Configures name → (key == name) = false := fun name none_ =>
      beq_eq_false_iff_ne.mpr fun same => none_ (same ▸ configures)
    by_cases model : key = "DEFAULT_MODEL"
    · rw [model]
      rfl
    · have model' : (key == "DEFAULT_MODEL") = false := beq_eq_false_iff_ne.mpr model
      simp [environment, environment', List.lookup_cons, model', other "HOME" (by decide),
        other "LANG" (by decide), other "TMPDIR" (by decide)]
  obtain ⟨s, s', loaded, loaded', same⟩ := ofRaw?_agree none environment environment' agree
  have elsewhere : "DEFAULT_MODEL" ≠ "PREVIEW_PATH" := by decide
  exact ⟨agree, s, s', loaded, loaded',
    (same "DEFAULT_MODEL").resolve_right fun place => elsewhere place.1⟩

/-- None of these environments holds a setting. But the directory for temporary files, which one of them names,
decides where previews are written by default, and nothing is loaded if there is a variable that is no text. -/
theorem unrelated_heard :
    let preview (raw : RawEnvironment) := (ofRaw? none raw).map (·.get? "PREVIEW_PATH")
    ¬ Configures "TMPDIR" ∧ ¬ Configures "LANG" ∧
      preview (encodeEnvironment [("TMPDIR", "/var/tmp")]) = some (some "/var/tmp/neoncode/preview.html") ∧
      preview (encodeEnvironment []) = some (some "/tmp/neoncode/preview.html") ∧
      preview [(Utf8.encode "LANG", [0xFF])] = none := by
  decide +kernel

end Snippet.Settings
