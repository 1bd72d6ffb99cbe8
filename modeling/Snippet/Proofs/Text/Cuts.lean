import Mathlib.Tactic.Common
import Snippet.Text.Utf8

/-!
# Reading bytes that come in chunks

A byte sequence may be cut into chunks that are decoded one by one. `Utf8.Inside before behind` says
that the cut between two byte sequences falls inside a character: the first byte behind it goes on
with the character that the bytes before it have begun. `Utf8.decodeLossy_flatten_iff`: decoding the
chunks one by one gives the text of the whole exactly if no cut falls inside a character. A cut that
does costs at least one further replacement character, and nothing that follows makes up for it
(`Utf8.length_decodeLossy_flatten_lt`).
-/

namespace Snippet.Text.Utf8

/-- The state of the reader after some bytes. -/
def after (state : State) (bytes : List UInt8) : State :=
  bytes.foldl (fun state b => (step state b).1) state

/-- What the reader has read after some bytes, the end of the bytes not counted. -/
def readFrom : State → List UInt8 → List Piece
  | _, [] => []
  | state, b :: rest => (step state b).2 ++ readFrom (step state b).1 rest

/-- The byte goes on with the character that the reader stands inside. -/
def State.Continues : State → UInt8 → Prop
  | .start, _ => False
  | .owed _ _ lo hi, b => lo ≤ b ∧ b ≤ hi

/-- The cut between the two byte sequences falls inside a character. -/
def Inside (before behind : List UInt8) : Prop :=
  ∃ b rest, behind = b :: rest ∧ (after .start before).Continues b

/-- No cut between two chunks falls inside a character. -/
def Whole (chunks : List (List UInt8)) : Prop :=
  ∀ before behind, chunks = before ++ behind → ¬ Inside before.flatten behind.flatten

variable {state : State} {x y : List UInt8} {b : UInt8}

@[simp] theorem after_nil : after state [] = state := rfl

@[simp] theorem after_cons : after state (b :: x) = after (step state b).1 x := rfl

theorem after_append : after state (x ++ y) = after (after state x) y := List.foldl_append

/-! ## Pieces of bytes that are cut in two -/

theorem piecesFrom_append :
    piecesFrom state (x ++ y) = readFrom state x ++ piecesFrom (after state x) y := by
  induction x generalizing state with
  | nil => rfl
  | cons b x ih => simp only [List.cons_append, piecesFrom, readFrom, after_cons, ih, List.append_assoc]

theorem piecesFrom_eq_readFrom :
    piecesFrom state x = readFrom state x ++ finish (after state x) := by
  have cut : piecesFrom state (x ++ []) = readFrom state x ++ piecesFrom (after state x) [] :=
    piecesFrom_append
  rw [List.append_nil] at cut
  exact cut

/-- A byte that does not go on with the character at hand is read as if it stood at the start. -/
theorem step_of_not_continues (breaks : ¬ state.Continues b) :
    step state b = ((begin b).1, finish state ++ (begin b).2) := by
  cases state with
  | start => rfl
  | owed bits need lo hi =>
    have out : ¬ (lo ≤ b ∧ b ≤ hi) := breaks
    rw [step, if_neg out]
    rfl

theorem piecesFrom_of_not_continues (breaks : ∀ b rest, y = b :: rest → ¬ state.Continues b) :
    piecesFrom state y = finish state ++ pieces y := by
  cases y with
  | nil => simp [pieces, piecesFrom, finish]
  | cons b rest =>
    rw [piecesFrom, step_of_not_continues (breaks b rest rfl), List.append_assoc]
    rfl

/-! ## A cut inside a character shows -/

/-- The bytes that may go on with a character never begin one. -/
def State.Tame : State → Prop
  | .start => True
  | .owed _ _ lo hi => 0x80 ≤ lo.toNat ∧ hi.toNat ≤ 0xBF

theorem begin_tame (b : UInt8) : (begin b).1.Tame := by
  simp only [begin]
  split_ifs
  all_goals trivial

theorem step_tame (tame : state.Tame) (b : UInt8) : (step state b).1.Tame := by
  cases state with
  | start => exact begin_tame b
  | owed bits need lo hi =>
    rw [step]
    split
    · dsimp only
      split
      · trivial
      · exact ⟨by decide, by decide⟩
    · exact begin_tame b

theorem after_tame (tame : state.Tame) (x : List UInt8) : (after state x).Tame := by
  induction x generalizing state with
  | nil => exact tame
  | cons b x ih => exact ih (step_tame tame b)

theorem begin_of_continues (tame : state.Tame) (goes : state.Continues b) :
    begin b = (.start, [none]) := by
  cases state with
  | start => exact goes.elim
  | owed bits need lo hi =>
    obtain ⟨above, below⟩ := goes
    have above' := UInt8.le_iff_toNat_le.mp above
    have below' := UInt8.le_iff_toNat_le.mp below
    have low : ¬ b.toNat < 0x80 := by have := tame.1; omega
    have high : b.toNat < 0xC2 := by have := tame.2; omega
    simp only [begin, if_neg low, if_pos high]

/-- A byte that goes on with a character makes no piece by itself, and one if it is read at the
start. -/
theorem step_of_continues (tame : state.Tame) (goes : state.Continues b) (rest : List UInt8)
    (le : ∀ {state : State}, state.Tame →
      (piecesFrom state rest).length ≤ (finish state).length + (pieces rest).length) :
    (piecesFrom state (b :: rest)).length < (finish state).length +
    (pieces (b :: rest)).length := by
  have alone : pieces (b :: rest) = none :: pieces rest := by
    rw [pieces, piecesFrom, step, begin_of_continues tame goes]
    rfl
  cases state with
  | start => exact goes.elim
  | owed bits need lo hi =>
    have goes' : lo ≤ b ∧ b ≤ hi := goes
    rw [alone, piecesFrom, step, if_pos goes']
    dsimp only
    split
    · simp only [finish, pieces, List.length_append, List.length_cons, List.length_nil]
      omega
    · have open_ : (State.owed (bits * 64 + (b.toNat - 0x80)) (need - 1) 0x80 0xBF).Tame :=
        ⟨by decide, by decide⟩
      have bound := le open_
      simp only [finish, List.length_append, List.length_cons, List.length_nil] at bound ⊢
      omega

/-- Bytes read in the middle of a character make no more pieces than the character broken off and
the bytes read by themselves. -/
theorem length_piecesFrom_le (tame : state.Tame) (y : List UInt8) :
    (piecesFrom state y).length ≤ (finish state).length + (pieces y).length := by
  induction y generalizing state with
  | nil => simp [pieces, piecesFrom, finish]
  | cons b rest ih =>
    by_cases goes : state.Continues b
    · exact Nat.le_of_lt (step_of_continues tame goes rest ih)
    · have breaks : ∀ b' rest', b :: rest = b' :: rest' → ¬ state.Continues b' := by
        rintro b' rest' ⟨rfl, rfl⟩
        exact goes
      have parts : (piecesFrom state (b :: rest)).length =
          (finish state).length + (pieces (b :: rest)).length := by
        rw [piecesFrom_of_not_continues breaks, List.length_append]
      exact Nat.le_of_eq parts

/-! ## Bytes in chunks -/

theorem pieces_append_of_not_inside (fits : ¬ Inside x y) :
    pieces (x ++ y) = pieces x ++ pieces y := by
  have breaks : ∀ b rest, y = b :: rest → ¬ (after .start x).Continues b :=
    fun b rest eq goes => fits ⟨b, rest, eq, goes⟩
  rw [pieces, piecesFrom_append, piecesFrom_of_not_continues breaks, ← List.append_assoc,
    ← piecesFrom_eq_readFrom]
  rfl

theorem length_pieces_append_le :
    (pieces (x ++ y)).length ≤ (pieces x).length + (pieces y).length := by
  have fresh : State.start.Tame := trivial
  have tame := after_tame fresh x
  have bound := length_piecesFrom_le tame y
  have whole : pieces (x ++ y) = _ := piecesFrom_append
  have alone : pieces x = _ := piecesFrom_eq_readFrom
  rw [whole, alone]
  simp only [List.length_append]
  omega

theorem length_pieces_append_lt (inside : Inside x y) :
    (pieces (x ++ y)).length < (pieces x).length + (pieces y).length := by
  obtain ⟨b, rest, rfl, goes⟩ := inside
  have fresh : State.start.Tame := trivial
  have tame := after_tame fresh x
  have bound := step_of_continues tame goes rest
    fun tame => length_piecesFrom_le tame rest
  have whole : pieces (x ++ b :: rest) = _ := piecesFrom_append
  have alone : pieces x = _ := piecesFrom_eq_readFrom
  rw [whole, alone]
  simp only [List.length_append]
  omega

/-- Where the first cut falls inside no character, the later cuts fall inside one exactly if they do
without the first chunk. -/
theorem whole_cons {chunk : List UInt8} {rest : List (List UInt8)}
    (fits : ¬ Inside chunk rest.flatten) : Whole (chunk :: rest) ↔ Whole rest := by
  have same : ∀ before behind, rest = before ++ behind →
      (Inside (chunk ++ before.flatten) behind.flatten ↔ Inside before.flatten behind.flatten) := by
    rintro before behind rfl
    rw [List.flatten_append] at fits
    cases start : before.flatten with
    | nil =>
      rw [start, List.nil_append] at fits
      rw [List.append_nil]
      exact iff_of_false fits fun ⟨_, _, _, goes⟩ => goes
    | cons b more =>
      -- the reader stands the same after `b`, whether `chunk` was read before it or not
      have breaks : ¬ (after .start chunk).Continues b := fun goes =>
        fits ⟨b, more ++ behind.flatten, by rw [start, List.cons_append], goes⟩
      have state : after .start (chunk ++ b :: more) = after .start (b :: more) := by
        rw [after_append, after_cons, step_of_not_continues breaks]
        rfl
      unfold Inside
      rw [state]
  constructor
  · intro whole before behind eq inside
    refine whole (chunk :: before) behind (by rw [eq, List.cons_append]) ?_
    rw [List.flatten_cons]
    exact (same before behind eq).mpr inside
  · intro whole before behind eq inside
    cases before with
    | nil =>
      obtain ⟨_, _, _, goes⟩ := inside
      exact goes
    | cons first before =>
      rw [List.cons_append] at eq
      injection eq with eq eq'
      subst eq
      rw [List.flatten_cons] at inside
      exact whole before behind eq' ((same before behind eq').mp inside)

theorem length_pieces_flatten_le (chunks : List (List UInt8)) :
    (pieces chunks.flatten).length ≤ (chunks.flatMap pieces).length := by
  induction chunks with
  | nil => simp [pieces, piecesFrom, finish]
  | cons chunk rest ih =>
    have bound := length_pieces_append_le (x := chunk) (y := rest.flatten)
    rw [List.flatten_cons, List.flatMap_cons, List.length_append]
    omega

theorem pieces_flatten {chunks : List (List UInt8)} (whole : Whole chunks) :
    chunks.flatMap pieces = pieces chunks.flatten := by
  induction chunks with
  | nil => rfl
  | cons chunk rest ih =>
    have fits : ¬ Inside chunk rest.flatten := by
      simpa using whole [chunk] rest rfl
    rw [List.flatMap_cons, ih ((whole_cons fits).mp whole), List.flatten_cons,
      pieces_append_of_not_inside fits]

theorem length_pieces_flatten_lt {chunks : List (List UInt8)} (cut : ¬ Whole chunks) :
    (pieces chunks.flatten).length < (chunks.flatMap pieces).length := by
  induction chunks with
  | nil =>
    refine (cut fun before behind eq inside => ?_).elim
    obtain ⟨rfl, rfl⟩ := List.append_eq_nil_iff.mp eq.symm
    obtain ⟨_, _, eq, _⟩ := inside
    cases eq
  | cons chunk rest ih =>
    rw [List.flatten_cons, List.flatMap_cons, List.length_append]
    by_cases inside : Inside chunk rest.flatten
    · have bound := length_pieces_append_lt inside
      have more := length_pieces_flatten_le rest
      omega
    · have bound := length_pieces_append_le (x := chunk) (y := rest.flatten)
      have more := ih fun whole => cut ((whole_cons inside).mpr whole)
      omega

theorem length_decodeLossy (x : List UInt8) : (decodeLossy x).length = (pieces x).length :=
  List.length_map _

theorem flatMap_decodeLossy (chunks : List (List UInt8)) :
    chunks.flatMap decodeLossy = (chunks.flatMap pieces).map fun piece => piece.getD '\uFFFD' := by
  rw [List.map_flatMap]
  rfl

theorem decodeLossy_append (fits : ¬ Inside x y) :
    decodeLossy (x ++ y) = decodeLossy x ++ decodeLossy y := by
  rw [decodeLossy, pieces_append_of_not_inside fits, List.map_append]
  rfl

/-- An ASCII byte goes on with no character. -/
theorem not_inside_of_ascii (ascii : b.toNat < 0x80) : ¬ Inside x (b :: y) := by
  rintro ⟨_, _, ⟨⟩, goes⟩
  have fresh : State.start.Tame := trivial
  have tame := after_tame fresh x
  cases state : after .start x with
  | start =>
    rw [state] at goes
    exact goes
  | owed bits need lo hi =>
    rw [state] at goes tame
    have above := UInt8.le_iff_toNat_le.mp goes.1
    have low := tame.1
    omega

/-- An ASCII byte is the end of whatever character was begun. -/
theorem not_inside_behind_ascii (ascii : b.toNat < 0x80) : ¬ Inside (x ++ [b]) y := by
  rintro ⟨_, _, rfl, goes⟩
  have breaks : ¬ (after .start x).Continues b := fun goes =>
    not_inside_of_ascii ascii ⟨b, [], rfl, goes⟩
  have past : after .start (x ++ [b]) = .start := by
    rw [after_append, after_cons, step_of_not_continues breaks, begin, if_pos ascii]
    rfl
  rw [past] at goes
  exact goes

/-! ## Chunks of bytes that fall into parts -/

/-- Between the two byte sequences there is no cut inside a character, wherever a chunk begins. -/
def Apart (x y : List UInt8) : Prop := ∀ tail, tail <:+ x → ¬ Inside tail y

theorem apart_of_ascii (ascii : b.toNat < 0x80) : Apart x (b :: y) :=
  fun _ _ => not_inside_of_ascii ascii

theorem apart_behind_ascii (ascii : b.toNat < 0x80) : Apart (x ++ [b]) y := by
  intro tail suffix
  rcases List.suffix_concat_iff.mp suffix with rfl | ⟨tail, rfl, _⟩
  · rintro ⟨_, _, _, goes⟩
    exact goes
  · exact not_inside_behind_ascii ascii

/-- Chunks of two parts can be had as chunks of the one and chunks of the other. -/
theorem exists_parts {chunks : List (List UInt8)} (joint : chunks.flatten = x ++ y)
    (apart : Apart x y) :
    ∃ before behind : List (List UInt8), before.flatten = x ∧ behind.flatten = y ∧
      chunks.flatMap decodeLossy = before.flatMap decodeLossy ++ behind.flatMap decodeLossy := by
  induction chunks generalizing x with
  | nil =>
    obtain ⟨rfl, rfl⟩ := List.append_eq_nil_iff.mp joint.symm
    exact ⟨[], [], rfl, rfl, rfl⟩
  | cons chunk rest ih =>
    rw [List.flatten_cons] at joint
    rcases List.append_eq_append_iff.mp joint with ⟨more, rfl, later⟩ | ⟨more, rfl, rfl⟩
    · have apart' : Apart more y := fun tail suffix =>
        apart tail (suffix.trans (List.suffix_append chunk more))
      obtain ⟨before, behind, rfl, rfl, texts⟩ := ih later apart'
      refine ⟨chunk :: before, behind, rfl, rfl, ?_⟩
      rw [List.flatMap_cons, texts, List.flatMap_cons, List.append_assoc]
    · have fits : ¬ Inside x more := by
        rintro ⟨b, tail, rfl, goes⟩
        exact apart x (List.suffix_refl x) ⟨b, tail ++ rest.flatten, rfl, goes⟩
      refine ⟨[x], more :: rest, List.append_nil x, rfl, ?_⟩
      rw [List.flatMap_cons, decodeLossy_append fits, List.flatMap_singleton, List.flatMap_cons,
        List.append_assoc]

/-- ASCII may be cut anywhere. -/
theorem whole_of_ascii {chunks : List (List UInt8)} (ascii : ∀ b ∈ chunks.flatten, b.toNat < 0x80) :
    Whole chunks := by
  rintro before behind rfl inside
  obtain ⟨b, tail, behind_eq, goes⟩ := inside
  have mem : b ∈ (before ++ behind).flatten := by
    rw [List.flatten_append, behind_eq]
    simp
  exact not_inside_of_ascii (ascii b mem) ⟨b, tail, rfl, goes⟩

/-! ## The text of chunks -/

/-- A cut inside a character costs at least one further character. -/
theorem length_decodeLossy_flatten_lt {chunks : List (List UInt8)} (cut : ¬ Whole chunks) :
    (decodeLossy chunks.flatten).length < (chunks.flatMap decodeLossy).length := by
  rw [length_decodeLossy, flatMap_decodeLossy, List.length_map]
  exact length_pieces_flatten_lt cut

/-- Chunks decoded one by one give the text of the whole exactly if no cut falls inside a
character. -/
theorem decodeLossy_flatten_iff (chunks : List (List UInt8)) :
    chunks.flatMap decodeLossy = decodeLossy chunks.flatten ↔ Whole chunks := by
  constructor
  · intro eq
    by_contra cut
    have more := length_decodeLossy_flatten_lt cut
    rw [eq] at more
    exact Nat.lt_irrefl _ more
  · intro whole
    rw [flatMap_decodeLossy, pieces_flatten whole]
    rfl

end Snippet.Text.Utf8
