import Mathlib.Logic.Relation
import Snippet.Proofs.Chat.Address

/-!
# One base address for all its spellings

A base address can be configured in several ways: with the version or without it, with slashes at its end, and
the standard one by name or not at all (`Respells`). `normalizeBase_eq_iff`: two texts come to one base address
exactly if respellings lead from the one to the other, and the base address is the one among its spellings that
is left as it is (`eq_normalizeBase_iff`). `normalizeBase_canonical`: so to configure a base address again changes
nothing, and neither do slashes at the end of what is configured.
-/

namespace Snippet.Chat

open Text

/-- The text names no address of its own: the standard one is meant. -/
def Standard (x : String) : Prop := x = "default" ∨ x = ""

instance (x : String) : Decidable (Standard x) := inferInstanceAs (Decidable (_ ∨ _))

/-- The version stands behind a slash, up to the next slash or to the end. -/
def Marked (s : List Char) : Prop := "v1".toList ∈ (splitAt '/' s).tail

instance (s : List Char) : Decidable (Marked s) := inferInstanceAs (Decidable (_ ∈ _))

/-- A text that is used as the base address as it stands. -/
structure Canonical (base : String) : Prop where
  marked : Marked base.toList
  ends : base.toList.getLast? ≠ some '/'

/-- Two ways to configure one base address. -/
inductive Respells : String → String → Prop where
  /-- where no address is named, the standard one is meant -/
  | standard {x : String} (standard : Standard x) : Respells x standardBase
  /-- a slash at the end does not count; but behind a text that names no address it makes one -/
  | slash {x : String} (named : ¬ Standard x) : Respells x (x ++ "/")
  /-- the version may be left out behind a slash -/
  | version {x : String} (unmarked : ¬ Marked x.toList) (ends : x.toList.getLast? ≠ some '/') :
      Respells (x ++ "/") (x ++ "/v1")

/-- The texts are respellings of each other, step by step. -/
def SameBase : String → String → Prop := Relation.EqvGen Respells

/-- Slashes are put behind the text, or taken away from its end. -/
def Reslashed (x y : String) : Prop :=
  ∃ q : List Char, (∀ c ∈ q, c = '/') ∧ (y = x ++ String.ofList q ∨ x = y ++ String.ofList q)

variable {x y : String} {s q : List Char}

/-! ## Slashes at the end -/

theorem trimSlashes_append_slash (x : String) :
    trimSlashes (x ++ "/").toList = trimSlashes x.toList := by
  rw [String.toList_append]
  exact trimSlashes_append_slashes (by simp) _

theorem Reslashed.trimSlashes (reslashed : Reslashed x y) :
    trimSlashes y.toList = trimSlashes x.toList := by
  obtain ⟨q, slashes, rfl | rfl⟩ := reslashed <;>
    rw [String.toList_append, String.toList_ofList, trimSlashes_append_slashes slashes]

/-! ## Texts that name an address -/

theorem named_of_slash (slash : '/' ∈ x.toList) : ¬ Standard x := by
  intro standard
  rcases standard with rfl | rfl <;> revert slash <;> decide

theorem named_append_slash (x : String) : ¬ Standard (x ++ "/") :=
  named_of_slash (by rw [String.toList_append]; exact List.mem_append_right _ (by decide))

/-- What names an address without its slashes names one with them. -/
theorem named_of_trimSlashes (named : ¬ Standard (String.ofList (trimSlashes x.toList))) :
    ¬ Standard x := by
  intro standard
  rcases standard with rfl | rfl <;> exact named (by decide)

theorem Marked.slash (marked : Marked s) : '/' ∈ s := by
  by_contra plain
  rw [Marked, splitAt_of_not_mem plain] at marked
  exact List.not_mem_nil marked

theorem marked_append_version (s : List Char) : Marked (s ++ "/v1".toList) := by
  rw [Marked, ← hasVersion_iff, hasVersion, List.isSuffixOf_iff_suffix.mpr (List.suffix_append s _),
    Bool.true_or]

/-! ## The base address -/

theorem normalizeBase_of_standard (standard : Standard x) : normalizeBase x = standardBase :=
  if_pos standard

theorem normalizeBase_of_named (named : ¬ Standard x) :
    normalizeBase x = String.ofList (if hasVersion (trimSlashes x.toList) then trimSlashes x.toList
      else trimSlashes x.toList ++ "/v1".toList) :=
  if_neg named

theorem normalizeBase_of_marked (named : ¬ Standard x) (marked : Marked (trimSlashes x.toList)) :
    normalizeBase x = String.ofList (trimSlashes x.toList) := by
  rw [normalizeBase_of_named named, if_pos (hasVersion_iff.mpr marked)]

theorem normalizeBase_of_unmarked (named : ¬ Standard x) (unmarked : ¬ Marked (trimSlashes x.toList)) :
    normalizeBase x = String.ofList (trimSlashes x.toList ++ "/v1".toList) := by
  rw [normalizeBase_of_named named, if_neg (hasVersion_iff.not.mpr unmarked)]

/-- Of a text that names an address only what stands in front of the slashes at its end matters. -/
theorem normalizeBase_congr (named : ¬ Standard x) (named' : ¬ Standard y)
    (same : trimSlashes x.toList = trimSlashes y.toList) : normalizeBase x = normalizeBase y := by
  rw [normalizeBase_of_named named, normalizeBase_of_named named', same]

/-! ## The canonical spelling -/

theorem canonical_standardBase : Canonical standardBase := ⟨by decide, by decide⟩

theorem canonical_version (s : List Char) : Canonical (String.ofList (s ++ "/v1".toList)) where
  marked := by
    rw [String.toList_ofList]
    exact marked_append_version s
  ends := by
    rw [String.toList_ofList, List.getLast?_append_of_ne_nil _ (by decide)]
    decide

theorem canonical_normalizeBase (x : String) : Canonical (normalizeBase x) := by
  by_cases standard : Standard x
  · rw [normalizeBase_of_standard standard]
    exact canonical_standardBase
  by_cases marked : Marked (trimSlashes x.toList)
  · rw [normalizeBase_of_marked standard marked]
    exact ⟨by rwa [String.toList_ofList], by rw [String.toList_ofList]; exact getLast?_trimSlashes _⟩
  · rw [normalizeBase_of_unmarked standard marked]
    exact canonical_version _

theorem Canonical.named (canonical : Canonical x) : ¬ Standard x :=
  named_of_slash canonical.marked.slash

theorem Canonical.normalizeBase (canonical : Canonical x) : normalizeBase x = x := by
  have trimmed : trimSlashes x.toList = x.toList := trimSlashes_eq_self_iff.mpr canonical.ends
  rw [normalizeBase_of_marked canonical.named (by rw [trimmed]; exact canonical.marked), trimmed,
    String.ofList_toList]

/-- The base addresses that are left as they are. -/
theorem normalizeBase_eq_self_iff : normalizeBase x = x ↔ Canonical x :=
  ⟨fun same => same ▸ canonical_normalizeBase x, Canonical.normalizeBase⟩

/-! ## Respelling -/

/-- A respelling does not change the base address. -/
theorem Respells.normalizeBase_eq (respells : Respells x y) : normalizeBase x = normalizeBase y := by
  cases respells with
  | standard standard =>
    rw [normalizeBase_of_standard standard, canonical_standardBase.normalizeBase]
  | slash named =>
    exact normalizeBase_congr named (named_append_slash x) (trimSlashes_append_slash x).symm
  | @version x unmarked ends =>
    have trimmed : trimSlashes (x ++ "/").toList = x.toList := by
      rw [trimSlashes_append_slash, trimSlashes_eq_self_iff.mpr ends]
    have versioned : x ++ "/v1" = String.ofList (x.toList ++ "/v1".toList) := by
      rw [String.ofList_append, String.ofList_toList, String.ofList_toList]
    rw [normalizeBase_of_unmarked (named_append_slash x) (by rwa [trimmed]), trimmed, versioned,
      (canonical_version x.toList).normalizeBase]

theorem SameBase.normalizeBase_eq (same : SameBase x y) : normalizeBase x = normalizeBase y := by
  induction same with
  | rel x y respells => exact respells.normalizeBase_eq
  | refl x => rfl
  | symm x y _ ih => exact ih.symm
  | trans x y z _ _ ih ih' => exact ih.trans ih'

/-- Slashes behind a text that names an address are put there one by one. -/
theorem sameBase_append_slashes (slashes : ∀ c ∈ q, c = '/') (named : ¬ Standard x) :
    SameBase x (x ++ String.ofList q) := by
  induction q generalizing x with
  | nil =>
    rw [String.ofList_nil, String.append_empty]
    exact .refl x
  | cons c q ih =>
    obtain ⟨rfl, others⟩ := List.forall_mem_cons.mp slashes
    have first : x ++ String.ofList ('/' :: q) = (x ++ "/") ++ String.ofList q := by
      apply String.toList_inj.mp
      simp
    rw [first]
    exact .trans _ _ _ (.rel _ _ (.slash named)) (ih others (named_append_slash x))

theorem Reslashed.sameBase (reslashed : Reslashed x y) (named : ¬ Standard x) (named' : ¬ Standard y) :
    SameBase x y := by
  obtain ⟨q, slashes, rfl | rfl⟩ := reslashed
  · exact sameBase_append_slashes slashes named
  · exact .symm _ _ (sameBase_append_slashes slashes named')

/-- All slashes at the end but one are respelled. -/
theorem reslashed_single (x : String) :
    Reslashed (String.ofList (trimSlashes x.toList) ++ "/") (x ++ "/") := by
  obtain ⟨q, parts, slashes⟩ := exists_trimSlashes x.toList
  have more : q ++ ['/'] = '/' :: q := by
    rw [List.eq_replicate_of_mem slashes, ← List.replicate_succ', List.replicate_succ]
  refine ⟨q, slashes, .inl ?_⟩
  apply String.toList_inj.mp
  simp only [String.toList_append, String.toList_ofList]
  conv_lhs => rw [parts]
  rw [List.append_assoc, List.append_assoc]
  exact congrArg (trimSlashes x.toList ++ ·) more

/-- Every text is a respelling of the base address that it stands for. -/
theorem sameBase_normalizeBase (x : String) : SameBase x (normalizeBase x) := by
  by_cases standard : Standard x
  · rw [normalizeBase_of_standard standard]
    exact .rel _ _ (.standard standard)
  -- one slash is left: without any the text may be the name of the standard address
  have single : SameBase x (String.ofList (trimSlashes x.toList) ++ "/") :=
    .trans _ _ _ (.rel _ _ (.slash standard))
      (.symm _ _ ((reslashed_single x).sameBase (named_append_slash _) (named_append_slash x)))
  apply Relation.EqvGen.trans _ _ _ single
  by_cases marked : Marked (trimSlashes x.toList)
  · have named : ¬ Standard (String.ofList (trimSlashes x.toList)) :=
      named_of_slash (by rw [String.toList_ofList]; exact marked.slash)
    rw [normalizeBase_of_marked standard marked]
    exact .symm _ _ (.rel _ _ (.slash named))
  · rw [normalizeBase_of_unmarked standard marked, String.ofList_append, String.ofList_toList]
    apply Relation.EqvGen.rel
    apply Respells.version
    · rwa [String.toList_ofList]
    · rw [String.toList_ofList]
      exact getLast?_trimSlashes _

/-- Texts come to one base address exactly if they are respellings of each other. -/
theorem normalizeBase_eq_iff : normalizeBase x = normalizeBase y ↔ SameBase x y := by
  refine ⟨fun same => ?_, SameBase.normalizeBase_eq⟩
  have back := sameBase_normalizeBase y
  rw [← same] at back
  exact .trans _ _ _ (sameBase_normalizeBase x) (.symm _ _ back)

/-- The base address of a text is the one among its respellings that is left as it is. -/
theorem eq_normalizeBase_iff : y = normalizeBase x ↔ SameBase x y ∧ Canonical y := by
  constructor
  · intro base
    rw [base]
    exact ⟨sameBase_normalizeBase x, canonical_normalizeBase x⟩
  · intro ⟨same, canonical⟩
    rw [same.normalizeBase_eq, canonical.normalizeBase]

/-- A base address is left as it is when it is configured again, it is not empty and has no slash at its end, and
it is the base address of those texts that are respellings of the one configured. More slashes at the end of that
one, or fewer, are no more than a respelling, if an address is named in front of them. -/
theorem normalizeBase_canonical (x : String) :
    normalizeBase (normalizeBase x) = normalizeBase x ∧ normalizeBase x ≠ "" ∧
      (normalizeBase x).toList.getLast? ≠ some '/' ∧
      (∀ y, normalizeBase y = normalizeBase x ↔ SameBase x y) ∧
      ∀ y, Reslashed x y → ¬ Standard (String.ofList (trimSlashes x.toList)) →
        normalizeBase y = normalizeBase x := by
  have canonical := canonical_normalizeBase x
  have nonempty : normalizeBase x ≠ "" := fun empty => canonical.named (.inr empty)
  have spelled : ∀ y, normalizeBase y = normalizeBase x ↔ SameBase x y := fun y => by
    rw [← normalizeBase_eq_iff, eq_comm]
  refine ⟨normalizeBase_eq_self_iff.mpr canonical, nonempty, canonical.ends, spelled, ?_⟩
  intro y reslashed named
  have named' : ¬ Standard (String.ofList (trimSlashes y.toList)) := by rwa [reslashed.trimSlashes]
  exact (spelled y).mpr (reslashed.sameBase (named_of_trimSlashes named) (named_of_trimSlashes named'))

/-- Two slashes at the end of an address that has its version. -/
theorem normalizeBase_canonical_proxy :
    let x := "https://proxy.example/v1//"
    let y := "https://proxy.example/v1"
    Reslashed x y ∧ ¬ Standard (String.ofList (trimSlashes x.toList)) ∧
      normalizeBase y = normalizeBase x := by
  intro x y
  have reslashed : Reslashed x y := ⟨['/', '/'], by simp, .inr (by decide)⟩
  have named : ¬ Standard (String.ofList (trimSlashes x.toList)) := by decide
  exact ⟨reslashed, named, (normalizeBase_canonical x).2.2.2.2 y reslashed named⟩

-- behind the name of the standard address, and where nothing is configured, a slash makes an address
example : normalizeBase "default" = normalizeBase "" ∧ normalizeBase "default/" = "default/v1" ∧
    normalizeBase "/" = "/v1" := by decide

end Snippet.Chat
