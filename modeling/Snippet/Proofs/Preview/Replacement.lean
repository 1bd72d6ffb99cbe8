import Snippet.Proofs.Preview.FileContents

/-!
# Which preview files can be replaced

Whether a page gets into a preview file does not depend on the page: the steps of a replacement succeed
for all pages or fail for all of them, and where they have failed they fail the next time too. So the
placeholder is of no help where a document could not be shown.
-/

namespace Snippet.Preview.FilePlace

open Snippet.Files Snippet.Text

variable {p : FilePlace} {t u v : Tree} {html : String} {e : Fault}

/-- Any page can take the place of the preview file. -/
def Replaceable (p : FilePlace) (t : Tree) : Prop := ∀ html, ∃ v, p.replace t html = (v, .ok ())

/-- A page can take the place of the file if another one can. -/
theorem replaceable_of_ok (replaced : p.replace t html = (v, .ok ())) : p.Replaceable t := by
  intro other
  obtain ⟨u, prepared, b, seat, d, target⟩ := exists_replace_iff.mp ⟨v, replaced⟩
  have alike : Tree.Alike (u.put b (.file (Utf8.encode html))) (u.put b (.file (Utf8.encode other))) :=
    Tree.alike_put_put seat.lookup_ne.2 (Utf8.encode other)
  exact exists_replace_iff.mpr ⟨u, prepared, b, seat, d, alike.seat.mp target⟩

theorem not_replaceable (failed : p.replace t html = (v, .error e)) : ¬ p.Replaceable t := by
  intro able
  obtain ⟨w, replaced⟩ := able html
  rw [failed] at replaced
  cases replaced

/-- The first step succeeds again if it has, also when there is more in the tree. -/
theorem prepare_of_keeps (prepared : p.prepare t = (u, .ok ())) (keeps : Tree.Keeps u v) :
    p.prepare v = (v, .ok ()) := by
  rw [prepare] at prepared ⊢
  split at prepared
  next dir above =>
    have made := (Tree.prepared_createDirectories t p.from_ dir).made (by rw [prepared])
    rw [prepared] at made
    exact Tree.createDirectories_of_isDirectory (made.imp_right keeps.isDirectory)
  next => rfl

/-- A replacement that failed has left nothing for the first step to do. -/
theorem prepare_of_error (failed : p.replace t html = (v, .error e)) : (p.prepare v).1 = v := by
  rcases replace_failed failed with ⟨rfl, -⟩ | ⟨a, seat, rfl⟩
  · exact prepare_again p t
  · rw [prepare_of_keeps (prepare_of_seat seat) (Tree.keeps_put seat.lookup_ne.1)]

/-- Where a page could not take the place of the file, no page can the next time. -/
theorem not_replaceable_of_error (failed : p.replace t html = (v, .error e)) :
    ¬ p.Replaceable v := by
  intro able
  obtain ⟨u, prepared, b, seat', d, target⟩ := exists_replace_iff.mp (able html)
  have stays := prepare_of_error failed
  rw [prepared] at stays
  subst stays
  rcases replace_failed failed with ⟨rfl, none_⟩ | ⟨a, seat, rfl⟩
  · exact none_ b seat'
  · -- the staging file is written over, so the names in the tree stay what they were
    have staged := seat.resolve_put (Utf8.encode html)
    cases seat'.unique (.inl ⟨_, staged⟩)
    have there := Tree.lookup_of_walk (Tree.resolve_eq_ok_iff.mp staged).2
    have alike := Tree.alike_put there seat.lookup_ne.2 (Utf8.encode html)
    obtain ⟨w, replaced⟩ :=
      exists_replace_iff.mpr ⟨_, prepare_of_seat seat, _, seat, d, alike.seat.mpr target⟩
    cases failed.symm.trans replaced

/-- The file holds just this page. -/
def Holds (p : FilePlace) (t : Tree) (html : String) : Prop :=
  p.content? t = some (Utf8.encode html)

instance (p : FilePlace) (t : Tree) (html : String) : Decidable (p.Holds t html) :=
  inferInstanceAs (Decidable (_ = _))

/-- The staging file can be written and renamed onto a file that is there. -/
theorem exists_replace_of_seat {b d : Location} {content : List UInt8}
    (prepared : p.prepare t = (u, .ok ())) (seat : u.Seat p.from_ p.staging b)
    (there : u.resolve p.from_ p.path = .ok (.present d (.file content))) :
    ∃ v, p.replace t html = (v, .ok ()) := by
  have target : ∃ before, (u.put b (.file (Utf8.encode html))).lookup d = some (.file before) := by
    rw [Tree.lookup_put seat.lookup_ne.2]
    split
    next => exact ⟨_, rfl⟩
    next => exact ⟨content, Tree.lookup_of_walk (Tree.resolve_eq_ok_iff.mp there).2⟩
  obtain ⟨before, found⟩ := target
  have keeps : Tree.Keeps u (u.put b (.file (Utf8.encode html))) :=
    Tree.keeps_put seat.lookup_ne.1
  exact exists_replace_iff.mpr ⟨u, prepared, b, seat, d,
    .inl ⟨before, keeps.resolve_seat (.inl ⟨content, there⟩) found⟩⟩

/-- A replacement that failed has not changed what the file holds. -/
theorem content?_of_error (failed : p.replace t html = (v, .error e)) :
    p.content? v = p.content? (p.prepare t).1 := by
  cases held : p.content? (p.prepare t).1 with
  | none =>
    by_contra there
    rw [(replace_error failed there).1] at there
    exact there held
  | some content =>
    rcases prepared : p.prepare t with ⟨u, e' | ⟨⟩⟩
    · rw [prepared, content?_of_prepare_error prepared] at held
      cases held
    · rw [prepared] at held
      rcases staging_of_file held with ⟨b, seat⟩ | directory
      · obtain ⟨d, there⟩ := content?_eq_some_iff.mp held
        obtain ⟨w, replaced⟩ := exists_replace_of_seat prepared seat there
        cases failed.symm.trans replaced
      · obtain ⟨e', again⟩ := replace_of_isDirectory html (p := p) (t := t) (by rwa [prepared])
        cases failed.symm.trans again
        rw [prepared]
        exact held

/-! ## What is shown -/

/-- What is shown gets into the file where the file can be replaced. -/
theorem Replaceable.present (able : p.Replaceable t) (x : Option Document) :
    (p.surface.present t x).2 = x ∧
      p.Holds (p.surface.present t x).1 ((x.map (·.html)).getD placeholder) := by
  cases x with
  | none =>
    obtain ⟨v, replaced⟩ := able placeholder
    refine ⟨rfl, ?_⟩
    rw [Surface.present, showPlaceholder_eq, replaced]
    exact replace_ok replaced
  | some d =>
    obtain ⟨v, replaced⟩ := able d.html
    rw [Surface.present, render_of_ok replaced]
    exact ⟨rfl, replace_ok replaced⟩

theorem exists_error (unable : ¬ p.Replaceable t) (html : String) :
    ∃ v e, p.replace t html = (v, .error e) := by
  rcases replaced : p.replace t html with ⟨v, e | ⟨⟩⟩
  · exact ⟨v, e, rfl⟩
  · exact absurd (replaceable_of_ok replaced) unable

/-- Where the file cannot be replaced it goes on holding what it held, and nothing counts as shown. -/
theorem present_of_not_replaceable (unable : ¬ p.Replaceable t) (x : Option Document) :
    (p.surface.present t x).2 = none ∧
      p.content? (p.surface.present t x).1 = p.content? (p.prepare t).1 := by
  cases x with
  | none =>
    obtain ⟨v, e, failed⟩ := exists_error unable placeholder
    refine ⟨rfl, ?_⟩
    rw [Surface.present, showPlaceholder_eq, failed]
    exact content?_of_error failed
  | some d =>
    obtain ⟨v, e, failed⟩ := exists_error unable d.html
    obtain ⟨w, e', again⟩ := exists_error (not_replaceable_of_error failed) placeholder
    rw [Surface.present, render_of_error failed]
    dsimp only
    rw [showPlaceholder_eq, again]
    refine ⟨rfl, ?_⟩
    calc p.content? w = p.content? (p.prepare v).1 := content?_of_error again
      _ = p.content? v := by rw [prepare_of_error failed]
      _ = p.content? (p.prepare t).1 := content?_of_error failed

end Snippet.Preview.FilePlace
