import Snippet.Chat.Endpoint
import Snippet.Proofs.Text.Lines
import Snippet.Proofs.Text.Trimming

/-!
# The version in the path of a base address

A base address is made of the configured one: slashes at its end are taken away, and the version is put behind
it unless it stands there. Whether it does is asked of the whole text (`hasVersion_iff`), in which not only the
segments of the path stand between slashes, but also the server. `Address.versioned_iff`: the path of the base
address has the version among its segments, unless the server is named like the version and the configured
path has none.
-/

namespace Snippet.Chat

open Text

/-- The text begins with a slash, if it is not empty. -/
def Rooted (p : List Char) : Prop := ∀ c ∈ p.head?, c = '/'

/-- An address without a query: a scheme, a server, and a path, which may be missing. -/
structure Address where
  scheme : List Char
  authority : List Char
  path : List Char
  scheme_plain : ∀ c ∈ scheme, c ∉ ":/?#".toList
  authority_plain : ∀ c ∈ authority, c ∉ "/?#".toList
  path_plain : ∀ c ∈ path, c ∉ "?#".toList
  path_rooted : Rooted path

/-- The address as it is written. -/
def Address.text (a : Address) : String :=
  String.ofList (a.scheme ++ ':' :: '/' :: '/' :: (a.authority ++ a.path))

/-- What stands in an address behind the server, or behind the scheme if no server is named. -/
def pathOf (address : String) : List Char :=
  let behind := (address.toList.dropWhile (· != ':')).tail
  match after? "//".toList behind with
  | some named => named.dropWhile (· != '/')
  | none => behind

/-- The version is a segment of the path. -/
def Versioned (path : List Char) : Prop := "v1".toList ∈ splitAt '/' path

instance (path : List Char) : Decidable (Versioned path) := inferInstanceAs (Decidable (_ ∈ _))

variable {p q server : List Char}

/-! ## Segments -/

/-- A version segment is found wherever it stands, but at the very beginning. -/
theorem hasVersion_iff {s : List Char} : hasVersion s = true ↔ "v1".toList ∈ (splitAt '/' s).tail := by
  have inside : '/' ∉ "v1".toList := by decide
  have infixed : '/' :: ("v1".toList ++ ['/']) = "/v1/".toList := rfl
  have ends : "/v1/".toList = "/v1".toList ++ ['/'] := rfl
  rw [mem_tail_splitAt_iff inside, infixed, List.infix_concat_iff, hasVersion, Bool.or_eq_true, occurs_iff,
    List.isSuffixOf_iff_suffix]
  refine or_congr_left ?_
  rw [ends, List.suffix_append_self_iff]

theorem splitAt_rooted (rooted : Rooted p) : splitAt '/' p = [] :: (splitAt '/' p).tail := by
  cases p with
  | nil => rfl
  | cons c p =>
    rw [rooted c rfl, splitAt, if_pos rfl]
    rfl

/-- The pieces of a server and a path. -/
theorem splitAt_server (plain : '/' ∉ server) (rooted : Rooted p) :
    splitAt '/' (server ++ p) = server :: (splitAt '/' p).tail := by
  cases p with
  | nil =>
    rw [List.append_nil, splitAt_of_not_mem plain]
    rfl
  | cons c p =>
    rw [rooted c rfl, splitAt_cut plain, splitAt, if_pos rfl]
    rfl

theorem versioned_iff_of_rooted (rooted : Rooted p) :
    Versioned p ↔ "v1".toList ∈ (splitAt '/' p).tail := by
  rw [Versioned, splitAt_rooted rooted, List.mem_cons]
  exact or_iff_right (by decide)

theorem versioned_append_slashes (slashes : ∀ c ∈ q, c = '/') : Versioned (p ++ q) ↔ Versioned p := by
  induction q generalizing p with
  | nil => rw [List.append_nil]
  | cons c q ih =>
    obtain ⟨rfl, others⟩ := List.forall_mem_cons.mp slashes
    have nothing : ¬ Versioned q := by
      have same := ih (p := []) others
      rw [List.nil_append] at same
      rw [same]
      decide
    rw [Versioned, splitAt_append, List.mem_append]
    exact or_iff_left nothing

theorem versioned_append_version (p : List Char) : Versioned (p ++ "/v1".toList) := by
  have parts : splitAt '/' (p ++ "/v1".toList) = splitAt '/' p ++ ["v1".toList] := splitAt_append p _
  rw [Versioned, parts]
  exact List.mem_append_right _ List.mem_cons_self

/-! ## Slashes at the end -/

theorem exists_trimSlashes (p : List Char) : ∃ q, p = trimSlashes p ++ q ∧ ∀ c ∈ q, c = '/' := by
  obtain ⟨q, parts, slashes⟩ := exists_dropTrailing (· == '/') p
  exact ⟨q, parts, fun c mem => beq_iff_eq.mp (List.all_eq_true.mp slashes c mem)⟩

theorem trimSlashes_eq_self_iff : trimSlashes p = p ↔ p.getLast? ≠ some '/' := by
  rw [trimSlashes, dropTrailing_eq_self_iff]
  cases p.getLast? <;> simp

theorem getLast?_trimSlashes (p : List Char) : (trimSlashes p).getLast? ≠ some '/' :=
  trimSlashes_eq_self_iff.mp (dropTrailing_dropTrailing _ p)

theorem trimSlashes_append_slashes (slashes : ∀ c ∈ q, c = '/') (p : List Char) :
    trimSlashes (p ++ q) = trimSlashes p :=
  dropTrailing_append_of_all (List.all_eq_true.mpr fun c mem => beq_iff_eq.mpr (slashes c mem)) p

theorem versioned_trimSlashes (p : List Char) : Versioned (trimSlashes p) ↔ Versioned p := by
  obtain ⟨q, parts, slashes⟩ := exists_trimSlashes p
  conv_rhs => rw [parts]
  exact (versioned_append_slashes slashes).symm

theorem rooted_nil : Rooted [] := nofun

theorem rooted_cons (p : List Char) : Rooted ('/' :: p) := by
  rintro _ ⟨⟩
  rfl

theorem Rooted.append (rooted : Rooted p) (rooted' : Rooted q) : Rooted (p ++ q) := by
  cases p with
  | nil => exact rooted'
  | cons c p => exact rooted

theorem Rooted.trimSlashes (rooted : Rooted p) : Rooted (trimSlashes p) := by
  obtain ⟨q, parts, _⟩ := exists_trimSlashes p
  intro c first
  refine rooted c ?_
  rw [parts, List.head?_append, Option.mem_def.mp first]
  rfl

theorem trimSlashes_plain (plain : '/' ∉ p) : trimSlashes p = p :=
  trimSlashes_eq_self_iff.mpr fun last => plain (List.mem_of_getLast? last)

theorem trimSlashes_server (plain : '/' ∉ server) (p : List Char) :
    trimSlashes (server ++ p) = server ++ trimSlashes p := by
  rw [trimSlashes, dropTrailing_append]
  split
  next none_ =>
    have all : trimSlashes p = [] := none_
    rw [all, List.append_nil]
    exact trimSlashes_plain plain
  next => rfl

/-! ## The base address -/

namespace Address

variable (a : Address)

theorem slash_not_mem_scheme : '/' ∉ a.scheme ++ [':'] := by
  intro mem
  rcases List.mem_append.mp mem with scheme | colon
  · exact a.scheme_plain _ scheme (by decide)
  · exact absurd colon (by decide)

theorem slash_not_mem_authority : '/' ∉ a.authority := fun mem => a.authority_plain _ mem (by decide)

/-- What a base address has behind its scheme, the path being given. -/
def behind (p : List Char) : List Char :=
  if a.authority ++ trimSlashes a.path = [] then p else '/' :: '/' :: (a.authority ++ p)

theorem trimSlashes_text :
    trimSlashes a.text.toList = a.scheme ++ ':' :: a.behind (trimSlashes a.path) := by
  have parts : a.text.toList = (a.scheme ++ [':']) ++ ("//".toList ++ (a.authority ++ a.path)) := by
    rw [text, String.toList_ofList, List.append_assoc]
    rfl
  have slashes : dropTrailing (· == '/') ("//".toList ++ (a.authority ++ a.path)) =
      if a.authority ++ trimSlashes a.path = [] then []
      else '/' :: '/' :: (a.authority ++ trimSlashes a.path) := by
    rw [dropTrailing_append]
    have rest : dropTrailing (· == '/') (a.authority ++ a.path) = _ :=
      trimSlashes_server a.slash_not_mem_authority a.path
    rw [rest]
    rfl
  rw [parts, trimSlashes_server a.slash_not_mem_scheme, trimSlashes, slashes, List.append_assoc, behind]
  split
  next none_ =>
    rw [(List.append_eq_nil_iff.mp none_).2]
    rfl
  next => rfl

theorem behind_append (p t : List Char) : a.behind p ++ t = a.behind (p ++ t) := by
  rw [behind, behind]
  split
  next => rfl
  next => rw [List.cons_append, List.cons_append, List.append_assoc]

/-- The path of the base address that the address stands for. -/
def basePath : List Char :=
  if a.authority = "v1".toList ∨ Versioned a.path then trimSlashes a.path
  else trimSlashes a.path ++ "/v1".toList

theorem basePath_rooted : Rooted a.basePath := by
  rw [basePath]
  split
  next => exact a.path_rooted.trimSlashes
  next => exact a.path_rooted.trimSlashes.append (rooted_cons _)

/-- The version is in the base path, but where the server was taken for it. -/
theorem versioned_basePath :
    Versioned a.basePath ↔ a.authority ≠ "v1".toList ∨ Versioned a.path := by
  rw [basePath]
  split
  next found =>
    rw [versioned_trimSlashes]
    exact ⟨Or.inr, fun either => either.elim (fun other => found.resolve_left other) id⟩
  next missing =>
    exact iff_of_true (versioned_append_version _) (.inl fun server => missing (.inl server))

/-- A version is found if it stands in the path, and also if it is the server. -/
theorem hasVersion_text :
    hasVersion (a.scheme ++ ':' :: a.behind (trimSlashes a.path)) = true ↔
      a.authority = "v1".toList ∨ Versioned a.path := by
  have rooted := a.path_rooted.trimSlashes
  have front := fun t => splitAt_cut a.slash_not_mem_scheme t
  simp only [List.append_assoc, List.cons_append, List.nil_append] at front
  rw [hasVersion_iff, behind, ← versioned_trimSlashes]
  split
  next none_ =>
    obtain ⟨noServer, noPath⟩ := List.append_eq_nil_iff.mp none_
    rw [noServer, noPath, splitAt_of_not_mem a.slash_not_mem_scheme]
    exact iff_of_false List.not_mem_nil (by decide)
  next =>
    -- the empty piece between the slashes, the server, and only then the segments of the path
    have slash : splitAt '/' ('/' :: (a.authority ++ trimSlashes a.path)) =
        [] :: a.authority :: (splitAt '/' (trimSlashes a.path)).tail := by
      rw [splitAt, if_pos rfl, splitAt_server a.slash_not_mem_authority rooted]
    have other : "v1".toList ≠ [] := by decide
    rw [front, slash, List.tail_cons, List.mem_cons, List.mem_cons, versioned_iff_of_rooted rooted,
      or_iff_right other, eq_comm]

theorem normalizeBase_text :
    normalizeBase a.text = String.ofList (a.scheme ++ ':' :: a.behind a.basePath) := by
  have slash : '/' ∈ a.text.toList := by
    rw [text, String.toList_ofList]
    simp
  have own : ¬ (a.text = "default" ∨ a.text = "") := by
    rintro (same | same) <;> rw [same] at slash <;> revert slash <;> decide
  rw [normalizeBase, if_neg own, trimSlashes_text, basePath]
  dsimp only
  by_cases found : a.authority = "v1".toList ∨ Versioned a.path
  · rw [if_pos found, if_pos (a.hasVersion_text.mpr found)]
  · rw [if_neg found, if_neg (a.hasVersion_text.not.mpr found), List.append_assoc, List.cons_append,
      behind_append]

theorem pathOf_behind {p : List Char} (rooted : Rooted p)
    (single : a.authority ++ trimSlashes a.path = [] → after? "//".toList p = none) :
    pathOf (String.ofList (a.scheme ++ ':' :: a.behind p)) = p := by
  have scheme : ∀ t, ((a.scheme ++ ':' :: t).dropWhile (· != ':')).tail = t := by
    intro t
    have other : ∀ c ∈ a.scheme, (c != ':') = true := fun c mem => by
      refine bne_iff_ne.mpr fun colon => a.scheme_plain c mem ?_
      rw [colon]
      decide
    rw [List.dropWhile_append_of_pos other]
    rfl
  have chars : (String.ofList (a.scheme ++ ':' :: a.behind p)).toList = _ := String.toList_ofList
  rw [pathOf, chars, scheme, behind]
  by_cases none_ : a.authority ++ trimSlashes a.path = []
  · rw [if_pos none_, single none_]
  · have named : after? "//".toList ('/' :: '/' :: (a.authority ++ p)) = some (a.authority ++ p) :=
      after?_eq_some_iff.mpr rfl
    have other : ∀ c ∈ a.authority, (c != '/') = true := fun c mem =>
      bne_iff_ne.mpr fun slash => a.slash_not_mem_authority (slash ▸ mem)
    rw [if_neg none_, named]
    dsimp only
    rw [List.dropWhile_append_of_pos other]
    cases p with
    | nil => rfl
    | cons c p =>
      rw [rooted c rfl]
      rfl

/-- What is put behind a base address goes to its path. -/
theorem pathOf_base {t : List Char} (rooted : Rooted t) :
    pathOf (normalizeBase a.text ++ String.ofList t) = a.basePath ++ t := by
  have whole : normalizeBase a.text ++ String.ofList t =
      String.ofList (a.scheme ++ ':' :: a.behind (a.basePath ++ t)) := by
    rw [normalizeBase_text, ← String.ofList_append, List.append_assoc, List.cons_append, behind_append]
  rw [whole]
  refine a.pathOf_behind (a.basePath_rooted.append rooted) fun none_ => ?_
  obtain ⟨noServer, noPath⟩ := List.append_eq_nil_iff.mp none_
  have unversioned : ¬ (a.authority = "v1".toList ∨ Versioned a.path) := by
    rw [← versioned_trimSlashes, noServer, noPath]
    decide
  rw [basePath, if_neg unversioned, noPath]
  rfl

end Address

/-! ## The request line -/

/-- Nothing in the path is escaped or carried out before it is sent: every character stands for itself, and no
segment stands for a directory. -/
structure Literal (path : List Char) : Prop where
  chars : ∀ c ∈ path, pathChar c = [c] ∧ c ∉ "\\?#".toList
  segments : ∀ s ∈ splitAt '/' path, isDot (String.ofList s) = false ∧ isDotDot (String.ofList s) = false

theorem resolveSegments_literal {segments : List String}
    (literal : ∀ s ∈ segments, isDot s = false ∧ isDotDot s = false) (kept : List String) :
    resolveSegments kept segments = kept ++ segments := by
  induction segments generalizing kept with
  | nil => exact (List.append_nil kept).symm
  | cons s segments ih =>
    obtain ⟨⟨dot, dots⟩, others⟩ := List.forall_mem_cons.mp literal
    cases segments with
    | nil => rw [resolveSegments, dot, dots, if_neg Bool.false_ne_true, if_neg Bool.false_ne_true]
    | cons next segments =>
      rw [resolveSegments, dot, dots, if_neg Bool.false_ne_true, if_neg Bool.false_ne_true, ih others,
        List.append_assoc]
      · rfl
      · exact nofun

theorem flatMap_pathChar (chars : ∀ c ∈ p, pathChar c = [c]) : p.flatMap pathChar = p := by
  induction p with
  | nil => rfl
  | cons c p ih =>
    obtain ⟨first, others⟩ := List.forall_mem_cons.mp chars
    rw [List.flatMap_cons, first, ih others, List.singleton_append]

theorem requestPath_literal (literal : Literal ('/' :: p)) : requestPath ('/' :: p) = '/' :: p := by
  have slashed : ('/' :: p).map (fun c => if c == '\\' then '/' else c) = '/' :: p := by
    refine (List.map_congr_left fun c mem => ?_).trans (List.map_id _)
    have other : c ≠ '\\' := fun same => (literal.chars c mem).2 (by rw [same]; decide)
    exact if_neg (beq_iff_eq.not.mpr other)
  have pieces : (splitAt '/' p).map (fun piece => String.ofList (piece.flatMap pathChar)) =
      (splitAt '/' p).map String.ofList := by
    have chars : ∀ piece ∈ splitAt '/' p, ∀ c ∈ piece, pathChar c = [c] :=
      (forall_splitAt (by decide +kernel) p).mpr fun c mem =>
        (literal.chars c (List.mem_cons_of_mem _ mem)).1
    exact List.map_congr_left fun piece mem => congrArg String.ofList (flatMap_pathChar (chars piece mem))
  have segments : ∀ s ∈ (splitAt '/' p).map String.ofList, isDot s = false ∧ isDotDot s = false := by
    intro s mem
    obtain ⟨piece, among, rfl⟩ := List.mem_map.mp mem
    refine literal.segments piece ?_
    rw [splitAt, if_pos rfl]
    exact List.mem_cons_of_mem _ among
  rw [requestPath, slashed]
  change '/' :: (join "/" (resolveSegments [] ((splitAt '/' p).map fun piece =>
    String.ofList (piece.flatMap pathChar)))).toList = '/' :: p
  rw [pieces, resolveSegments_literal segments, List.nil_append, join_splitAt]

theorem requestTarget?_literal (literal : Literal ('/' :: p)) :
    requestTarget? (String.ofList ('/' :: p)) = some (String.ofList ('/' :: p)) := by
  have kept : ('/' :: p).filter (fun c => c != '\t' && c != '\n' && c != '\r') = '/' :: p := by
    have tab : pathChar '\t' ≠ ['\t'] := by decide +kernel
    have newline : pathChar '\n' ≠ ['\n'] := by decide +kernel
    have return_ : pathChar '\r' ≠ ['\r'] := by decide +kernel
    refine List.filter_eq_self.mpr fun c mem => ?_
    have own := (literal.chars c mem).1
    simp only [Bool.and_eq_true, bne_iff_ne]
    refine ⟨⟨?_, ?_⟩, ?_⟩ <;> rintro rfl <;> contradiction
  have whole : ∀ stop ∈ "?#".toList, ∀ c ∈ '/' :: p, (c != stop) = true := by
    intro stop stops c mem
    refine bne_iff_ne.mpr fun same => (literal.chars c mem).2 ?_
    rw [same]
    exact List.mem_cons_of_mem _ stops
  have fragment : ('/' :: p).takeWhile (· != '#') = '/' :: p :=
    List.takeWhile_eq_self_iff.mpr (whole '#' (by decide))
  have query : ('/' :: p).takeWhile (· != '?') = '/' :: p :=
    List.takeWhile_eq_self_iff.mpr (whole '?' (by decide))
  have noQuery : ('/' :: p).dropWhile (· != '?') = [] :=
    List.dropWhile_eq_nil_iff.mpr (whole '?' (by decide))
  rw [requestTarget?, String.toList_ofList, kept, fragment, query, noQuery, requestPath_literal literal]
  simp

/-- Paths that follow each other are literal if they are for themselves. -/
theorem literal_append_iff (rooted : Rooted q) : Literal (p ++ q) ↔ Literal p ∧ Literal q := by
  have pieces : ∀ s, s ∈ splitAt '/' (p ++ q) ↔ s ∈ splitAt '/' p ∨ s ∈ (splitAt '/' q).tail := by
    intro s
    cases q with
    | nil => simp [splitAt]
    | cons c q =>
      rw [rooted c rfl, splitAt_append, List.mem_append, splitAt, if_pos rfl]
      rfl
  constructor
  · intro literal
    refine ⟨⟨fun c mem => literal.chars c (List.mem_append_left _ mem), fun s mem => ?_⟩,
      ⟨fun c mem => literal.chars c (List.mem_append_right _ mem), fun s mem => ?_⟩⟩
    · exact literal.segments s ((pieces s).mpr (.inl mem))
    · rw [splitAt_rooted rooted] at mem
      rcases List.mem_cons.mp mem with rfl | later
      · decide +kernel
      · exact literal.segments s ((pieces s).mpr (.inr later))
  · rintro ⟨first, second⟩
    refine ⟨fun c mem => (List.mem_append.mp mem).elim (first.chars c) (second.chars c), fun s mem => ?_⟩
    rcases (pieces s).mp mem with front | back
    · exact first.segments s front
    · exact second.segments s (List.mem_of_mem_tail back)

theorem Literal.trimSlashes (literal : Literal p) : Literal (trimSlashes p) := by
  obtain ⟨q, parts, slashes⟩ := exists_trimSlashes p
  have rooted : Rooted q := fun c first => slashes c (List.mem_of_mem_head? first)
  rw [parts] at literal
  exact ((literal_append_iff rooted).mp literal).1

theorem literal_version : Literal "/v1".toList where
  chars := by simp [pathChar, isControlOrWide]
  segments := by decide +kernel

theorem literal_completions : Literal "/chat/completions".toList where
  chars := by simp [pathChar, isControlOrWide]
  segments := by decide +kernel

namespace Address

variable (a : Address)

theorem literal_basePath (literal : Literal a.path) : Literal a.basePath := by
  rw [basePath]
  split
  next => exact literal.trimSlashes
  next => exact (literal_append_iff (rooted_cons _)).mpr ⟨literal.trimSlashes, literal_version⟩

/-- The path of the base address has a version segment, unless the version was found in the name of the server
and the configured path has none. What requests are sent to has the path of the base address in front of its
own segments, and if the configured path is literal, just that stands in the request line. -/
theorem versioned_iff (a : Address) :
    let base := normalizeBase a.text
    (Versioned (pathOf base) ↔ a.authority ≠ "v1".toList ∨ Versioned a.path) ∧
      pathOf (completionsAddress base) = pathOf base ++ "/chat/completions".toList ∧
      (Literal a.path → requestTarget? (String.ofList (pathOf (completionsAddress base))) =
        some (String.ofList (pathOf base ++ "/chat/completions".toList))) := by
  intro base
  have own : pathOf base = a.basePath := by
    have whole := a.pathOf_base rooted_nil
    rwa [String.ofList_nil, String.append_empty, List.append_nil] at whole
  have completions : pathOf (completionsAddress base) = a.basePath ++ "/chat/completions".toList :=
    a.pathOf_base (rooted_cons _)
  rw [own, completions]
  refine ⟨a.versioned_basePath, rfl, fun literal => ?_⟩
  have whole : Literal (a.basePath ++ "/chat/completions".toList) :=
    (literal_append_iff (rooted_cons _)).mpr ⟨a.literal_basePath literal, literal_completions⟩
  have rooted : Rooted (a.basePath ++ "/chat/completions".toList) := a.basePath_rooted.append (rooted_cons _)
  obtain ⟨c, rest, eq⟩ := List.exists_cons_of_ne_nil
    (List.append_ne_nil_of_right_ne_nil a.basePath (by decide : "/chat/completions".toList ≠ []))
  rw [eq] at whole rooted ⊢
  rw [rooted c rfl] at whole ⊢
  exact requestTarget?_literal whole

-- the version stands in the name of the server, at the end of a longer segment, and nowhere between slashes
example : normalizeBase "https://v1.example/api-v1//" = "https://v1.example/api-v1/v1" := by decide

/-- A server that is named like the version is taken for it. -/
theorem server_taken_for_version :
    let a : Address :=
      { scheme := "http".toList, authority := "v1".toList, path := "/".toList, scheme_plain := by simp,
        authority_plain := by simp, path_plain := by simp, path_rooted := rooted_cons [] }
    a.text = "http://v1/" ∧ normalizeBase a.text = "http://v1" ∧
      ¬ Versioned (pathOf (normalizeBase a.text)) := by
  decide

end Address

end Snippet.Chat
