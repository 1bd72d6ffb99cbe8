import Snippet.Proofs.Preview.Replacement

/-!
# What a failed replacement leaves under the staging name

A page that cannot be shown is written under the staging name first; only then does the renaming fail,
and nothing takes the staging file away again. So it stays behind wherever it can be written at all
(`staged_of_failed`), and the placeholder, which fails after it, is written over it
(`staged_of_failed_again`). `clean_iff` says exactly when nothing new is left.
-/

namespace Snippet.Preview.FilePlace

open Snippet.Files Snippet.Text

variable {p : FilePlace} {t u v w : Tree} {a : Location} {html other : String} {e e' : Fault}

/-- There is nothing under the staging name that was not there before. -/
def Clean (p : FilePlace) (t v : Tree) : Prop :=
  ∀ b node, v.resolve p.from_ p.staging = .ok (.present b node) → t.lookup b = some node

/-- Once the directory of the file is made, the page can be written under the staging name, where it was
not; or that name is one of a directory which has just been made. -/
def Stranded (p : FilePlace) (t : Tree) (html : String) : Prop :=
  (∃ a, (p.prepare t).1.Seat p.from_ p.staging a ∧ t.lookup a ≠ some (.file (Utf8.encode html))) ∨
    ∃ a, (p.prepare t).1.resolve p.from_ p.staging = .ok (.present a .directory) ∧
      t.lookup a ≠ some .directory

/-- Where the staging file has been written, it is clean if it held the page before. -/
theorem clean_of_written (seat : (p.prepare t).1.Seat p.from_ p.staging a)
    (written : v.resolve p.from_ p.staging = .ok (.present a (.file (Utf8.encode html)))) :
    p.Clean t v ↔ ¬ p.Stranded t html := by
  constructor
  · intro clean stranded
    rcases stranded with ⟨a', seat', other⟩ | ⟨a', directory, -⟩
    · cases seat.unique seat'
      exact other (clean a _ written)
    · rcases seat with ⟨before, found⟩ | found
      · cases found.symm.trans directory
      · cases found.symm.trans directory
  · intro not_ b node found
    cases written.symm.trans found
    by_contra other
    exact not_ (.inl ⟨a, seat, other⟩)

/-- Where it could not be written, there can only be a directory. -/
theorem clean_of_unwritten (none_ : ∀ a, ¬ (p.prepare t).1.Seat p.from_ p.staging a) (html : String) :
    p.Clean t (p.prepare t).1 ↔ ¬ p.Stranded t html := by
  constructor
  · intro clean stranded
    rcases stranded with ⟨a, seat, -⟩ | ⟨a, directory, other⟩
    · exact none_ a seat
    · exact other (clean a _ directory)
  · intro not_ b node found
    cases node with
    | file content => exact absurd (.inl ⟨content, found⟩) (none_ b)
    | directory =>
      by_contra other
      exact not_ (.inr ⟨b, found, other⟩)

/-- Where the staging file can be written, a replacement that fails leaves it behind. -/
theorem staged_of_failed (failed : p.replace t html = (v, .error e))
    (seat : (p.prepare t).1.Seat p.from_ p.staging a) :
    v.resolve p.from_ p.staging = .ok (.present a (.file (Utf8.encode html))) := by
  rcases replace_failed failed with ⟨-, none_⟩ | ⟨a', seat', rfl⟩
  · exact absurd seat (none_ a)
  · cases seat'.unique seat
    exact seat.resolve_put _

/-- The next replacement writes over it. -/
theorem staged_of_failed_again (failed : p.replace t html = (v, .error e))
    (again : p.replace v other = (w, .error e')) (seat : (p.prepare t).1.Seat p.from_ p.staging a) :
    w.resolve p.from_ p.staging = .ok (.present a (.file (Utf8.encode other))) := by
  apply staged_of_failed again
  rw [prepare_of_error failed]
  exact .inl ⟨_, staged_of_failed failed seat⟩

theorem clean_of_failed_iff (failed : p.replace t html = (v, .error e)) :
    p.Clean t v ↔ ¬ p.Stranded t html := by
  rcases replace_failed failed with ⟨rfl, none_⟩ | ⟨a, seat, -⟩
  · exact clean_of_unwritten none_ html
  · exact clean_of_written seat (staged_of_failed failed seat)

theorem clean_of_failed_again_iff (failed : p.replace t html = (v, .error e))
    (again : p.replace v other = (w, .error e')) : p.Clean t w ↔ ¬ p.Stranded t other := by
  rcases replace_failed failed with ⟨rfl, none_⟩ | ⟨a, seat, -⟩
  · have second := replace_failed again
    rw [prepare_again] at second
    rcases second with ⟨rfl, -⟩ | ⟨a, seat, -⟩
    · exact clean_of_unwritten none_ other
    · exact absurd seat (none_ a)
  · exact clean_of_written seat (staged_of_failed_again failed again seat)

/-! ## A document that cannot be shown -/

/-- When a document cannot be shown, neither can the placeholder in its place. -/
theorem exists_failures (p : FilePlace) (r : Renderer Tree) (d : Document)
    (fails : (p.surface.render r.surface d).2 = false) :
    ∃ v e w e', p.replace r.surface d.html = (v, .error e) ∧
      p.replace v placeholder = (w, .error e') ∧ (p.surface.render r.surface d).1 = v ∧
      (r.display p.surface d).surface = w := by
  rcases replaced : p.replace r.surface d.html with ⟨v, e | ⟨⟩⟩
  · obtain ⟨w, e', again⟩ := exists_error (not_replaceable_of_error replaced) placeholder
    have rendered := render_of_error replaced
    have shown := congrArg Prod.fst (Renderer.shown_display (S := p.surface) (r := r) d)
    rw [Surface.present, rendered] at shown
    dsimp only at shown
    rw [showPlaceholder_eq, again] at shown
    exact ⟨v, e, w, e', rfl, again, congrArg Prod.fst rendered, shown⟩
  · rw [render_of_ok replaced] at fails
    cases fails

/-- When a document cannot be shown, there is nothing new under the staging name exactly if the document
could not be written there, or was there before; and after the placeholder has been tried in its place,
exactly if the placeholder could not, or was. -/
theorem clean_iff (p : FilePlace) (r : Renderer Tree) (d : Document)
    (fails : (p.surface.render r.surface d).2 = false) :
    (p.Clean r.surface (p.surface.render r.surface d).1 ↔ ¬ p.Stranded r.surface d.html) ∧
      (p.Clean r.surface (r.display p.surface d).surface ↔ ¬ p.Stranded r.surface placeholder) := by
  obtain ⟨v, e, w, e', failed, again, first, second⟩ := exists_failures p r d fails
  rw [first, second]
  exact ⟨clean_of_failed_iff failed, clean_of_failed_again_iff failed again⟩

/-- Where the directory of the file cannot be made, nothing is written. -/
theorem not_stranded_of_prepare_error (failed : p.prepare t = (u, .error e)) (html : String) :
    ¬ p.Stranded t html := by
  intro stranded
  have nowhere := (resolve_of_prepare_error failed).2
  unfold Stranded at stranded
  rw [failed] at stranded
  rcases stranded with ⟨a, seat, -⟩ | ⟨a, directory, -⟩
  · obtain ⟨goal, found, -⟩ := seat.resolve
    exact nowhere goal found
  · exact nowhere _ directory

/-- The directory of the file is a file, so neither the page nor the placeholder is written. -/
theorem clean_below_file :
    let p : FilePlace := ⟨[], "f/p.html"⟩
    let t : Tree := ⟨[(["f"], .file [0x78])]⟩
    let d : Document := ⟨"a", .html, ⟨0, 0⟩⟩
    (p.surface.render t d).2 = false ∧ p.Clean t (p.surface.render t d).1 ∧
      p.Clean t ((Renderer.start t).display p.surface d).surface := by
  intro p t d
  have fails : (p.surface.render t d).2 = false := by decide +kernel
  have failed : p.prepare t = (t, .error .exists) := by decide +kernel
  obtain ⟨first, second⟩ := clean_iff p (Renderer.start t) d fails
  exact ⟨fails, first.mpr (not_stranded_of_prepare_error failed _),
    second.mpr (not_stranded_of_prepare_error failed _)⟩

/-- The file is a directory, so a page that was written cannot be renamed to it: there is the page under
the staging name then, where there was nothing, and after that the placeholder. -/
theorem page_left_behind :
    let p : FilePlace := ⟨[], "p.html"⟩
    let t : Tree := ⟨[(["p.html"], .directory)]⟩
    let d : Document := ⟨"a", .html, ⟨0, 0⟩⟩
    let first := p.surface.render t d
    let second := (Renderer.start t).display p.surface d
    first.2 = false ∧ t.resolve [] p.staging = .ok (.free ["p.html.partial"] false) ∧
      first.1.resolve [] p.staging =
        .ok (.present ["p.html.partial"] (.file (Utf8.encode "a"))) ∧
      second.surface.resolve [] p.staging =
        .ok (.present ["p.html.partial"] (.file (Utf8.encode placeholder))) ∧
      ¬ p.Clean t first.1 ∧ ¬ p.Clean t second.surface := by
  intro p t d first second
  have fails : first.2 = false := by decide +kernel
  have idle : p.prepare t = (t, .ok ()) := by decide +kernel
  have free : t.resolve [] p.staging = .ok (.free ["p.html.partial"] false) := by decide +kernel
  have seat : (p.prepare t).1.Seat [] p.staging ["p.html.partial"] := by
    rw [idle]
    exact .inr free
  have none_ : t.lookup ["p.html.partial"] = none := by decide
  obtain ⟨v, e, w, e', failed, again, first_, second_⟩ := exists_failures p (Renderer.start t) d fails
  have page : first.1.resolve [] p.staging = _ := first_ ▸ staged_of_failed failed seat
  have after : second.surface.resolve [] p.staging = _ :=
    second_ ▸ staged_of_failed_again failed again seat
  refine ⟨fails, free, page, after, ?_, ?_⟩
  · intro clean
    cases none_.symm.trans (clean _ _ page)
  · intro clean
    cases none_.symm.trans (clean _ _ after)

end Snippet.Preview.FilePlace
