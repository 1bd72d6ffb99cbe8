import Snippet.Proofs.Files.Tree

/-!
# What operations on files change

A file can be written, or another one renamed to it, where a path name leads to a file or to a place
for one, a `Seat`: then it is found there afterwards (`Seat.resolve_put`, `rename_spec`).
Making directories only adds to a tree (`Grows`); it succeeds exactly if the path is a directory then
(`prepared_createDirectories`), and done again it adds nothing (`createDirectories_again`).
-/

namespace Snippet.Files.Tree

variable {t u v : Tree} {at_ a b d x : Location} {node : Node} {path up source target : String}
  {from_ : Location} {content : List UInt8} {goal : Target} {e : Fault}

/-! ## Path names -/

/-- Where the walk along a path name starts. -/
def start (from_ : Location) (path : String) : Location := if isAbsolute path then [] else from_

theorem resolve_eq_ok_iff : t.resolve from_ path = .ok goal ↔
    path ≠ "" ∧ t.walk (start from_ path) (segments path) = .ok goal := by
  rw [resolve]
  split
  next empty =>
    rw [String.isEmpty_iff] at empty
    exact iff_of_false nofun fun both => both.1 empty
  next some_ =>
    rw [String.isEmpty_iff] at some_
    exact (and_iff_right some_).symm

theorem isDirectory_iff : t.isDirectory from_ path = true ↔
    ∃ d, t.resolve from_ path = .ok (.present d .directory) := by
  rw [isDirectory]
  split
  next d found => exact iff_of_true rfl ⟨d, found⟩
  next other => exact iff_of_false Bool.false_ne_true fun ⟨d, found⟩ => other d found

theorem isDirectory_iff_walk : t.isDirectory from_ path = true ↔
    path ≠ "" ∧ ∃ d, t.walk (start from_ path) (names path) = .ok (.present d .directory) := by
  simp only [isDirectory_iff, resolve_eq_ok_iff, exists_and_left, names, walk_filter]

theorem Keeps.isDirectory (keeps : Keeps t u) (directory : t.isDirectory from_ path = true) :
    u.isDirectory from_ path = true := by
  obtain ⟨d, found⟩ := isDirectory_iff.mp directory
  obtain ⟨some_, walked⟩ := resolve_eq_ok_iff.mp found
  exact isDirectory_iff.mpr ⟨d, resolve_eq_ok_iff.mpr ⟨some_, keeps.walk walked⟩⟩

theorem start_of_parent? (above : parent? path = some up) : start from_ up = start from_ path := by
  obtain ⟨-, -, -, abs⟩ := above_of_parent? above
  rw [start, start, abs]

/-- Above whatever a path names, or could name, there is a directory. -/
theorem isDirectory_above (resolved : t.resolve from_ path = .ok goal)
    (above : parent? path = some up) : up = "" ∨ t.isDirectory from_ up = true := by
  by_cases here : up = ""
  · exact .inl here
  · obtain ⟨-, walked⟩ := resolve_eq_ok_iff.mp resolved
    obtain ⟨d, walkedAbove⟩ := exists_above_of_walk (segments_ne_nil path) walked
    obtain ⟨names_, -, -, abs⟩ := above_of_parent? above
    refine .inr (isDirectory_iff.mpr ⟨d, resolve_eq_ok_iff.mpr ⟨here, walk_filter.mp ?_⟩⟩)
    have names_eq : (segments up).filter isName = ((segments path).filter isName).dropLast := names_
    rw [start, abs, names_eq]
    exact walkedAbove

/-- A path names a file, or a place where one can be put. -/
def Seat (t : Tree) (from_ : Location) (path : String) (b : Location) : Prop :=
  (∃ content, t.resolve from_ path = .ok (.present b (.file content))) ∨
    t.resolve from_ path = .ok (.free b false)

theorem Seat.lookup_ne (seat : t.Seat from_ path b) : t.lookup b ≠ some .directory ∧ b ≠ [] := by
  have other : t.lookup b ≠ some .directory := by
    rcases seat with ⟨before, found⟩ | found
    · rw [lookup_of_walk (resolve_eq_ok_iff.mp found).2]
      exact nofun
    · rw [(lookup_of_walk_free (resolve_eq_ok_iff.mp found).2).1]
      exact nofun
  exact ⟨other, ne_nil_of_lookup other⟩

/-- The location that a path name leads to, taken or free. -/
def Target.place : Target → Location
  | .present at_ _ => at_
  | .free at_ _ => at_

theorem Seat.resolve (seat : t.Seat from_ path b) :
    ∃ goal, t.resolve from_ path = .ok goal ∧ goal.place = b := by
  rcases seat with ⟨before, found⟩ | found
  · exact ⟨_, found, rfl⟩
  · exact ⟨_, found, rfl⟩

theorem Seat.unique (seat : t.Seat from_ path a) (seat' : t.Seat from_ path b) : a = b := by
  obtain ⟨goal, found, rfl⟩ := seat.resolve
  obtain ⟨goal', found', rfl⟩ := seat'.resolve
  cases found.symm.trans found'
  rfl

/-- Where the directories are the same, a path names what is put where it leads. -/
theorem Keeps.resolve_seat (keeps : Keeps t u) (seat : t.Seat from_ path b)
    (there : u.lookup b = some (.file content)) :
    u.resolve from_ path = .ok (.present b (.file content)) := by
  have both : path ≠ "" ∧ t.Seats (start from_ path) (segments path) b := by
    rcases seat with ⟨before, found⟩ | found
    · obtain ⟨some_, walked⟩ := resolve_eq_ok_iff.mp found
      exact ⟨some_, .inl ⟨before, walked⟩⟩
    · obtain ⟨some_, walked⟩ := resolve_eq_ok_iff.mp found
      exact ⟨some_, .inr walked⟩
  exact resolve_eq_ok_iff.mpr ⟨both.1, keeps.walk_seat both.2 there⟩

/-! ## One entry -/

theorem keeps_put (other : t.lookup at_ ≠ some .directory) : Keeps t (t.put at_ node) := by
  intro x dir
  have apart : x ≠ at_ := by
    rintro rfl
    exact other dir
  rw [lookup_put (ne_nil_of_lookup other), if_neg apart, dir]

theorem keeps_erase (other : t.lookup at_ ≠ some .directory) : Keeps t (t.erase at_) := by
  intro x dir
  have apart : x ≠ at_ := by
    rintro rfl
    exact other dir
  rw [lookup_erase (ne_nil_of_lookup other), if_neg apart, dir]

theorem lookup_put_self (place : at_ ≠ []) : (t.put at_ node).lookup at_ = some node := by
  rw [lookup_put place, if_pos rfl]

/-- A file that has been written is found there. -/
theorem Seat.resolve_put (seat : t.Seat from_ path b) (content : List UInt8) :
    (t.put b (.file content)).resolve from_ path = .ok (.present b (.file content)) := by
  obtain ⟨other, place⟩ := seat.lookup_ne
  exact (keeps_put other).resolve_seat seat (lookup_put_self place)

/-! ## Writing and renaming -/

theorem write_eq_ok_iff : t.write from_ path content = .ok u ↔
    ∃ b, t.Seat from_ path b ∧ u = t.put b (.file content) := by
  rw [write]
  constructor
  · intro written
    split at written
    next => cases written
    next => cases written
    next b before found =>
      cases written
      exact ⟨b, .inl ⟨before, found⟩, rfl⟩
    next => cases written
    next b found =>
      cases written
      exact ⟨b, .inr found, rfl⟩
  · rintro ⟨b, ⟨before, found⟩ | found, rfl⟩
    · rw [found]
    · rw [found]

theorem rename_eq (there : t.resolve from_ source = .ok (.present a (.file content)))
    (seat : t.Seat from_ target b) (apart : a ≠ b) :
    t.rename from_ source target = .ok ((t.erase a).put b (.file content)) := by
  rcases seat with ⟨before, found⟩ | found
  · simp only [rename, there, found, if_neg apart]
  · simp only [rename, there, found]

/-- Renaming a file to itself changes nothing. -/
theorem rename_self (there : t.resolve from_ source = .ok (.present a (.file content)))
    (seat : t.Seat from_ target a) :
    t.rename from_ source target = .ok t ∧
      t.resolve from_ target = .ok (.present a (.file content)) := by
  have source_ := lookup_of_walk (resolve_eq_ok_iff.mp there).2
  rcases seat with ⟨before, found⟩ | found
  · have target_ := lookup_of_walk (resolve_eq_ok_iff.mp found).2
    cases source_.symm.trans target_
    refine ⟨?_, found⟩
    simp only [rename, there, found, if_true]
  · have free := (lookup_of_walk_free (resolve_eq_ok_iff.mp found).2).1
    cases source_.symm.trans free

theorem lookup_put_erase (other : t.lookup a ≠ some .directory) (place : b ≠ []) :
    ((t.erase a).put b node).lookup x =
      if x = b then some node else if x = a then none else t.lookup x := by
  rw [lookup_put place, lookup_erase (ne_nil_of_lookup other)]

/-- A file is renamed onto a file, or to where one can be put. -/
theorem rename_spec (there : t.resolve from_ source = .ok (.present a (.file content)))
    (seat : t.Seat from_ target b) :
    ∃ u, t.rename from_ source target = .ok u ∧ Keeps t u ∧
      u.resolve from_ target = .ok (.present b (.file content)) := by
  by_cases same : a = b
  · subst same
    obtain ⟨renamed, found⟩ := rename_self there seat
    exact ⟨t, renamed, fun _ dir => dir, found⟩
  · obtain ⟨otherB, place⟩ := seat.lookup_ne
    have otherA : t.lookup a ≠ some .directory := by
      rw [lookup_of_walk (resolve_eq_ok_iff.mp there).2]
      exact nofun
    have moved : Keeps t ((t.erase a).put b (.file content)) := by
      refine (keeps_erase otherA).trans (keeps_put ?_)
      rw [lookup_erase (ne_nil_of_lookup otherA), if_neg (Ne.symm same)]
      exact otherB
    exact ⟨_, rename_eq there seat same, moved, moved.resolve_seat seat (lookup_put_self place)⟩

/-- Without an entry of that name nothing is renamed; else the target is a file afterwards. -/
theorem seat_of_rename (renamed : t.rename from_ source target = .ok u) :
    (∃ a content, t.resolve from_ source = .ok (.present a (.file content))) ∧
      ∃ b, t.Seat from_ target b := by
  rw [rename] at renamed
  split at renamed
  next => cases renamed
  next => cases renamed
  next => cases renamed
  next => cases renamed
  next => cases renamed
  next => cases renamed
  next a content b before source_ target_ => exact ⟨⟨a, content, source_⟩, b, .inl ⟨before, target_⟩⟩
  next a content b source_ target_ => exact ⟨⟨a, content, source_⟩, b, .inr target_⟩

/-! ## Trees that differ in contents -/

theorem seat_iff : t.Seat from_ path b ↔
    path ≠ "" ∧ t.Seats (start from_ path) (segments path) b := by
  rw [Seat, Seats, resolve_eq_ok_iff]
  simp only [resolve_eq_ok_iff, exists_and_left]
  rw [← and_or_left]

theorem Alike.seat (alike : Alike t u) : t.Seat from_ path b ↔ u.Seat from_ path b := by
  rw [seat_iff, seat_iff, alike.seats]

/-- What a file holds does not matter to the rest. -/
theorem alike_put_put (place : b ≠ []) (other : List UInt8) :
    Alike (t.put b (.file content)) (t.put b (.file other)) := by
  constructor
  · intro x
    rw [lookup_put place, lookup_put place]
    split <;> simp
  · intro x
    rw [lookup_put place, lookup_put place]
    split <;> simp

theorem alike_put (there : t.lookup b = some (.file content)) (place : b ≠ []) (other : List UInt8) :
    Alike t (t.put b (.file other)) := by
  constructor
  · intro x
    rw [lookup_put place]
    split
    next same => simp [same, there]
    next => rfl
  · intro x
    rw [lookup_put place]
    split
    next same => simp [same, there]
    next => rfl

/-! ## Making directories -/

/-- Whatever is in a tree is in another one too. -/
def Grows (t u : Tree) : Prop := ∀ x node, t.lookup x = some node → u.lookup x = some node

theorem Grows.refl (t : Tree) : Grows t t := fun _ _ => id

theorem Grows.trans (first : Grows t u) (second : Grows u v) : Grows t v :=
  fun x node found => second x node (first x node found)

theorem Grows.keeps (grows : Grows t u) : Keeps t u := fun x => grows x .directory

/-- A path that names a file goes on naming it while the tree grows. -/
theorem Grows.resolve (grows : Grows t u)
    (found : t.resolve from_ path = .ok (.present b (.file content))) :
    u.resolve from_ path = .ok (.present b (.file content)) :=
  grows.keeps.resolve_seat (.inl ⟨content, found⟩)
    (grows _ _ (lookup_of_walk (resolve_eq_ok_iff.mp found).2))

theorem grows_put (free : t.lookup at_ = none) (place : at_ ≠ []) : Grows t (t.put at_ node) := by
  intro x node' found
  have apart : x ≠ at_ := by
    rintro rfl
    rw [free] at found
    cases found
  rw [lookup_put place, if_neg apart, found]

theorem makeDirectory_eq_ok_iff : t.makeDirectory from_ path = .ok u ↔
    ∃ b slash, t.resolve from_ path = .ok (.free b slash) ∧ u = t.put b .directory := by
  rw [makeDirectory]
  constructor
  · intro made
    split at made
    next => cases made
    next => cases made
    next b slash found =>
      cases made
      exact ⟨b, slash, found, rfl⟩
  · rintro ⟨b, slash, found, rfl⟩
    rw [found]

theorem makeDirectory_spec (made : t.makeDirectory from_ path = .ok u) :
    Grows t u ∧ u.isDirectory from_ path = true := by
  obtain ⟨b, slash, found, rfl⟩ := makeDirectory_eq_ok_iff.mp made
  obtain ⟨some_, walked⟩ := resolve_eq_ok_iff.mp found
  obtain ⟨free, place⟩ := lookup_of_walk_free walked
  have grows : Grows t (t.put b .directory) := grows_put free place
  have arrives := grows.keeps.walk_free walked (lookup_put_self place)
  exact ⟨grows, isDirectory_iff.mpr ⟨b, resolve_eq_ok_iff.mpr ⟨some_, arrives⟩⟩⟩

theorem makeDirectory_of_isDirectory (there : t.isDirectory from_ path = true) :
    t.makeDirectory from_ path = .error .exists := by
  obtain ⟨d, found⟩ := isDirectory_iff.mp there
  rw [makeDirectory, found]

/-- One directory is made, unless there is one already. -/
def attempt (t : Tree) (from_ : Location) (path : String) : Tree × Except Fault Unit :=
  match t.makeDirectory from_ path with
  | .ok u => (u, .ok ())
  | .error e => (t, if t.isDirectory from_ path then .ok () else .error e)

theorem attempt_of_isDirectory (there : t.isDirectory from_ path = true) :
    t.attempt from_ path = (t, .ok ()) := by
  rw [attempt, makeDirectory_of_isDirectory there]
  exact congrArg (Prod.mk t) (if_pos there)

theorem attempt_ok (made : t.attempt from_ path = (u, .ok ())) :
    Grows t u ∧ u.isDirectory from_ path = true := by
  rw [attempt] at made
  split at made
  next v directory =>
    cases made
    exact makeDirectory_spec directory
  next e refused =>
    obtain ⟨rfl, outcome⟩ := Prod.mk.inj made
    split at outcome
    next there => exact ⟨.refl t, there⟩
    next => cases outcome

theorem attempt_error (refused : t.attempt from_ path = (u, .error e)) :
    u = t ∧ t.isDirectory from_ path = false ∧ t.makeDirectory from_ path = .error e := by
  rw [attempt] at refused
  split at refused
  next => cases refused
  next e' failed =>
    obtain ⟨rfl, outcome⟩ := Prod.mk.inj refused
    split at outcome
    next => cases outcome
    next other =>
      cases outcome
      exact ⟨rfl, Bool.eq_false_iff.mpr other, failed⟩

/-- Directories are made from above: where the way to a directory is missing, it is made first. -/
theorem makeDirectories_succ (fuel : Nat) : makeDirectories from_ (fuel + 1) t path =
    if path = "" then (t, .ok ())
    else if t.makeDirectory from_ path = .error .noEntry then
      match parent? path with
      | none => (t, .error .noEntry)
      | some up =>
        match makeDirectories from_ fuel t up with
        | (u, .error e) => (u, .error e)
        | (u, .ok ()) => u.attempt from_ path
    else t.attempt from_ path := by
  rw [makeDirectories]
  by_cases here : path = ""
  · rw [if_pos here, if_pos (String.isEmpty_iff.mpr here)]
  rw [if_neg here, if_neg (mt String.isEmpty_iff.mp here)]
  cases made : t.makeDirectory from_ path with
  | ok u =>
    rw [if_neg nofun, attempt, made]
  | error e =>
    cases e with
    | noEntry =>
      rw [if_pos rfl]
      rfl
    | «exists» => rw [if_neg nofun, attempt, made]
    | notDirectory => rw [if_neg nofun, attempt, made]
    | isDirectory => rw [if_neg nofun, attempt, made]

theorem makeDirectory_noEntry (missing : t.makeDirectory from_ path = .error .noEntry) :
    t.isDirectory from_ path = false := by
  rw [Bool.eq_false_iff]
  intro there
  rw [makeDirectory_of_isDirectory there] at missing
  cases missing

theorem makeDirectories_of_isDirectory (fuel : Nat)
    (there : path = "" ∨ t.isDirectory from_ path = true) :
    makeDirectories from_ (fuel + 1) t path = (t, .ok ()) := by
  rw [makeDirectories_succ]
  split
  next => rfl
  next here =>
    have directory := there.resolve_left here
    rw [makeDirectory_of_isDirectory directory, if_neg nofun, attempt_of_isDirectory directory]

/-- What making directories has come to: the tree has grown, and the path is a directory exactly if it
was a success. -/
structure Prepared (from_ : Location) (path : String) (t : Tree) (r : Tree × Except Fault Unit) :
    Prop where
  grows : Grows t r.1
  made : r.2 = .ok () → path = "" ∨ r.1.isDirectory from_ path = true
  refused : ∀ e, r.2 = .error e → path ≠ "" ∧ r.1.isDirectory from_ path = false

theorem prepared_attempt (here : path ≠ "") : Prepared from_ path t (t.attempt from_ path) := by
  rcases made : t.attempt from_ path with ⟨u, e | ⟨⟩⟩
  · obtain ⟨rfl, other, -⟩ := attempt_error made
    exact ⟨.refl u, nofun, fun _ _ => ⟨here, other⟩⟩
  · obtain ⟨grows, there⟩ := attempt_ok made
    exact ⟨grows, fun _ => .inr there, nofun⟩

/-- No directory is below a path that is none. -/
theorem isDirectory_of_parent? (above : parent? path = some up) (here : up ≠ "")
    (other : t.isDirectory from_ up = false) : ∀ goal, t.resolve from_ path ≠ .ok goal := by
  intro goal found
  rcases isDirectory_above found above with empty | there
  · exact here empty
  · rw [other] at there
    cases there

theorem isDirectory_eq_false (nowhere : ∀ goal, t.resolve from_ path ≠ .ok goal) :
    t.isDirectory from_ path = false := by
  rw [Bool.eq_false_iff]
  intro there
  obtain ⟨d, found⟩ := isDirectory_iff.mp there
  exact nowhere _ found

theorem length_parts_of_parent? (above : parent? path = some up) :
    (parts up).length < (parts path).length := by
  obtain ⟨-, shorter, some_, -⟩ := above_of_parent? above
  rw [shorter, List.length_dropLast]
  have := List.length_pos_of_ne_nil some_
  omega

theorem makeDirectories_spec {fuel : Nat} (enough : (parts path).length < fuel) :
    Prepared from_ path t (makeDirectories from_ fuel t path) := by
  -- along the way up the parts get fewer, so the number suffices
  induction fuel generalizing path with
  | zero => exact absurd enough (Nat.not_lt_zero _)
  | succ fuel ih =>
    rw [makeDirectories_succ]
    split
    next empty => exact ⟨.refl t, fun _ => .inl empty, nofun⟩
    next here =>
      split
      next missing =>
        split
        next => exact ⟨.refl t, nofun, fun _ _ => ⟨here, makeDirectory_noEntry missing⟩⟩
        next up above =>
          have shorter := length_parts_of_parent? above
          have before : Prepared from_ up t (makeDirectories from_ fuel t up) := ih (by omega)
          rcases first : makeDirectories from_ fuel t up with ⟨u, e | ⟨⟩⟩
          · rw [first] at before
            obtain ⟨some_, other⟩ := before.refused e rfl
            have nowhere := isDirectory_of_parent? above some_ other
            exact ⟨before.grows, nofun, fun _ _ => ⟨here, isDirectory_eq_false nowhere⟩⟩
          · rw [first] at before
            have tried : Prepared from_ path u (u.attempt from_ path) := prepared_attempt here
            exact ⟨before.grows.trans tried.grows, tried.made, tried.refused⟩
      next => exact prepared_attempt here

theorem attempt_refused (failed : t.makeDirectory from_ path = .error e)
    (other : t.isDirectory from_ path = false) : t.attempt from_ path = (t, .error e) := by
  rw [attempt, failed]
  exact congrArg (Prod.mk t) (if_neg (Bool.eq_false_iff.mp other))

/-- Where nothing can be made of a path, and nothing more of the way to it, all stays as it is. -/
theorem makeDirectories_idle {fuel : Nat} (here : path ≠ "") (other : t.isDirectory from_ path = false)
    (never : ∀ v, t.makeDirectory from_ path ≠ .ok v)
    (way : ∀ up, parent? path = some up → ∃ r, makeDirectories from_ fuel t up = (t, r)) :
    ∃ e, makeDirectories from_ (fuel + 1) t path = (t, .error e) := by
  cases made : t.makeDirectory from_ path with
  | ok v => exact absurd made (never v)
  | error e =>
    rw [makeDirectories_succ, if_neg here, made]
    split
    next missing =>
      obtain rfl := Except.error.inj missing
      split
      next => exact ⟨_, rfl⟩
      next up above =>
        obtain ⟨e' | ⟨⟩, again⟩ := way up above
        · rw [again]
          exact ⟨e', rfl⟩
        · rw [again]
          exact ⟨_, attempt_refused made other⟩
    next => exact ⟨e, attempt_refused made other⟩

/-- Where directories could not be made they cannot be made the next time either, and nothing more is
left by it. -/
theorem makeDirectories_again {fuel : Nat} (enough : (parts path).length < fuel)
    (refused : makeDirectories from_ fuel t path = (u, .error e)) :
    ∃ e', makeDirectories from_ fuel u path = (u, .error e') := by
  induction fuel generalizing path e with
  | zero => exact absurd enough (Nat.not_lt_zero _)
  | succ fuel ih =>
    have spec : Prepared from_ path t (u, .error e) := refused ▸ makeDirectories_spec enough
    obtain ⟨here, other⟩ := spec.refused e rfl
    have unfolded := refused
    rw [makeDirectories_succ, if_neg here] at unfolded
    split at unfolded
    next =>
      split at unfolded
      next =>
        cases unfolded
        exact ⟨_, refused⟩
      next up above =>
        have shorter := length_parts_of_parent? above
        have less : (parts up).length < fuel := by omega
        have before : Prepared from_ up t (makeDirectories from_ fuel t up) :=
          makeDirectories_spec less
        -- what could not be made is either something above the path or the path itself
        rcases first : makeDirectories from_ fuel t up with ⟨w, e₁ | ⟨⟩⟩
        · rw [first] at unfolded before
          cases unfolded
          obtain ⟨some_, noDirectory⟩ := before.refused _ rfl
          have nowhere := isDirectory_of_parent? above some_ noDirectory
          refine makeDirectories_idle here other (fun v made => ?_) fun up' above' => ?_
          · obtain ⟨b, slash, found, -⟩ := makeDirectory_eq_ok_iff.mp made
            exact nowhere _ found
          · obtain rfl := Option.some.inj (above.symm.trans above')
            obtain ⟨e', again⟩ := ih less first
            exact ⟨_, again⟩
        · rw [first] at unfolded before
          obtain ⟨rfl, -, failed⟩ := attempt_error unfolded
          refine makeDirectories_idle here other (fun v made => ?_) fun up' above' => ?_
          · rw [failed] at made
            cases made
          · obtain rfl := Option.some.inj (above.symm.trans above')
            obtain ⟨fuel, rfl⟩ := Nat.exists_eq_succ_of_ne_zero (Nat.ne_zero_of_lt less)
            exact ⟨_, makeDirectories_of_isDirectory fuel (before.made rfl)⟩
    next =>
      obtain ⟨rfl, -, -⟩ := attempt_error unfolded
      exact ⟨_, refused⟩

theorem prepared_createDirectories (t : Tree) (from_ : Location) (path : String) :
    Prepared from_ path t (t.createDirectories from_ path) :=
  makeDirectories_spec (Nat.lt_succ_of_le (length_parts_le path))

theorem createDirectories_of_isDirectory (there : path = "" ∨ t.isDirectory from_ path = true) :
    t.createDirectories from_ path = (t, .ok ()) := makeDirectories_of_isDirectory _ there

theorem createDirectories_again (refused : t.createDirectories from_ path = (u, .error e)) :
    ∃ e', u.createDirectories from_ path = (u, .error e') :=
  makeDirectories_again (Nat.lt_succ_of_le (length_parts_le path)) refused

end Snippet.Files.Tree
