import Snippet.CommandLine.Report
import Snippet.Proofs.Preview.Replacement

/-!
# What is said of a preview

The command that writes a preview says that the preview was written, or that the placeholder was, and
takes one for the other by what its renderer keeps. A renderer that keeps nothing does not know whether
the placeholder got into the file: it did exactly if the file could be replaced at all.
-/

namespace Snippet.CommandLine.Site

open Snippet.Text Snippet.Preview

variable {s : Site} {a : PreviewArguments} {text : SourceText} {language : Language}

/-- The file that a preview is written to. -/
def previewPlace (s : Site) (a : PreviewArguments) : FilePlace :=
  ⟨s.here, a.out.getD (s.settings.previewPath s.temporary)⟩

/-- The two notes differ, in their colours if in nothing else. -/
theorem previewNote_ne (language : Language) (path : String) :
    previewNote true language path ≠ previewNote false language path := by
  intro same
  have digits := congrArg (fun note : String => note.toList[3]?) same
  simp [previewNote, Tone.paint, Tone.colour] at digits

/-- All that is printed is that the preview was written to its file, or that the placeholder was. -/
def Notes (r : Report) (written : Bool) (language : Language) (path : String) : Prop :=
  r.out = fun _ => previewNote written language path

theorem Notes.unique {r : Report} {path : String} {w w' : Bool} (one : Notes r w language path)
    (other : Notes r w' language path) : w = w' := by
  have same : previewNote w language path = previewNote w' language path :=
    congrFun (one.symm.trans other) 0
  cases w <;> cases w'
  · rfl
  · exact absurd same.symm (previewNote_ne language path)
  · exact absurd same (previewNote_ne language path)
  · rfl

theorem map_html_build? (source : String) (language : Language) (now : Timestamp) :
    (Document.build? source language now).map (·.html) = pageOf source language := by
  rw [Document.build?, Option.map_map]
  exact Option.map_id'

/-- What showing the snippet's document comes to, or the placeholder where there is none, is all that the
command does, and what it says depends on whether the document counts as shown. -/
theorem preview_eq (once : a.watch = false)
    (sourced : s.source a.file a.lang = .ok (text, language)) :
    ∃ x : Option Document, x.map (·.html) = pageOf text.text language ∧
      (s.preview a).exit = 0 ∧
      (s.preview a).tree = ((s.previewPlace a).surface.present s.tree x).1 ∧
      Notes (s.preview a) ((s.previewPlace a).surface.present s.tree x).2.isSome language
        (s.previewPlace a).path := by
  let r := (Renderer.start s.tree).setAuto (s.settings.flag "AUTO_PREVIEW")
  let x := Document.build? text.text language r.timestamp
  have report : s.preview a =
      { Report.say s (previewNote (r.update (s.previewPlace a).surface text.text language).current.isSome
          language (s.previewPlace a).path) with
        tree := (r.update (s.previewPlace a).surface text.text language).surface } := by
    rw [preview, once, sourced]
    rfl
  have surface : r.surface = s.tree := by
    simp only [r, Renderer.setAuto]
    split <;> rfl
  have shown := Renderer.shown_update_eq_present (S := (s.previewPlace a).surface) (r := r) text.text
    language
  rw [surface] at shown
  refine ⟨x, map_html_build? _ _ _, ?_, ?_, ?_⟩
  · rw [report]
    rfl
  · rw [report]
    exact congrArg Prod.fst shown
  · rw [report, Notes, ← shown]
    rfl

/-- The command succeeds whatever becomes of the file, and says that the preview was written only if the
file holds the page of the snippet. What it says of the placeholder is true, and its success means that
the file holds the one or the other, exactly if the file could be replaced, or held the placeholder
before. -/
theorem preview_true_iff (s : Site) (a : PreviewArguments) {text : SourceText} {language : Language}
    (once : a.watch = false) (sourced : s.source a.file a.lang = .ok (text, language)) :
    let p := s.previewPlace a
    let r := s.preview a
    (Notes r true language p.path → ∃ html ∈ pageOf text.text language, p.Holds r.tree html) ∧
      ((Notes r false language p.path → p.Holds r.tree placeholder) ∧
          (r.exit = 0 → (∃ html ∈ pageOf text.text language, p.Holds r.tree html) ∨
            p.Holds r.tree placeholder) ↔
        p.Replaceable s.tree ∨ p.Holds (p.prepare s.tree).1 placeholder) := by
  intro p r
  obtain ⟨x, page, exit, tree, note⟩ := preview_eq once sourced
  by_cases able : p.Replaceable s.tree
  · obtain ⟨current, holds⟩ := able.present x
    rw [← tree] at holds
    rw [current] at note
    cases x with
    | none =>
      refine ⟨fun other => absurd (other.unique note) Bool.noConfusion, ?_⟩
      exact iff_of_true ⟨fun _ => holds, fun _ => .inr holds⟩ (.inl able)
    | some d =>
      have held : ∃ html ∈ pageOf text.text language, p.Holds r.tree html :=
        ⟨d.html, page.symm, holds⟩
      refine ⟨fun _ => held, iff_of_true ⟨fun other => ?_, fun _ => .inl held⟩ (.inl able)⟩
      exact absurd (other.unique note) Bool.noConfusion
  · obtain ⟨current, same⟩ := FilePlace.present_of_not_replaceable able x
    rw [← tree] at same
    rw [current] at note
    have held : p.Holds r.tree placeholder ↔ p.Holds (p.prepare s.tree).1 placeholder := by
      rw [FilePlace.Holds, FilePlace.Holds, same]
    refine ⟨fun other => absurd (other.unique note) Bool.noConfusion, ?_⟩
    rw [or_iff_right able, ← held]
    exact ⟨fun both => both.1 note, fun there => ⟨fun _ => there, fun _ => .inr there⟩⟩

/-- A site with nothing but files and a snippet that is piped in. -/
def ofFiles (tree : Files.Tree) (piped : String) : Site where
  tree
  here := []
  settingsFile := ""
  temporary := "/tmp"
  environment := []
  piped := Utf8.encode piped
  now := ⟨0, 0⟩
  interpret _ _ := .done (.success "")
  server := ""
  response := .dropped

/-- A page is written to a directory that is made for it. -/
theorem preview_true_in_new_directory :
    let s : Site := .ofFiles .empty "<p>x</p>"
    let a : PreviewArguments := ⟨none, some "html", some "f/p.html", false, none⟩
    let r := s.preview a
    a.watch = false ∧ s.source a.file a.lang = .ok (⟨"<p>x</p>", none⟩, .html) ∧
      (Notes r true .html "f/p.html" → ∃ html ∈ pageOf "<p>x</p>" .html,
        (s.previewPlace a).Holds r.tree html) ∧
      (s.previewPlace a).Holds r.tree "<p>x</p>" := by
  intro s a r
  have sourced : s.source a.file a.lang = .ok (⟨"<p>x</p>", none⟩, .html) := by decide +kernel
  exact ⟨rfl, sourced, (preview_true_iff s a rfl sourced).1, by decide +kernel⟩

/-- The directory of the preview file cannot be made, since there is a file of its name: nothing is
written, but the command says that the placeholder was, and succeeds. -/
theorem placeholder_never_written :
    let s : Site := .ofFiles ⟨[(["f"], .file [0x78])]⟩ "<p>x</p>"
    let a : PreviewArguments := ⟨none, some "html", some "f/p.html", false, none⟩
    let r := s.preview a
    Notes r false .html "f/p.html" ∧ r.exit = 0 ∧ r.tree = s.tree ∧
      ¬ (Notes r false .html "f/p.html" → (s.previewPlace a).Holds r.tree placeholder) ∧
      ¬ (r.exit = 0 → (∃ html ∈ pageOf "<p>x</p>" .html, (s.previewPlace a).Holds r.tree html) ∨
        (s.previewPlace a).Holds r.tree placeholder) := by
  intro s a r
  have sourced : s.source a.file a.lang = .ok (⟨"<p>x</p>", none⟩, .html) := by decide +kernel
  have unable : ¬ (s.previewPlace a).Replaceable s.tree := by
    have failed : (s.previewPlace a).replace s.tree "" = (s.tree, .error .exists) := by
      decide +kernel
    exact FilePlace.not_replaceable failed
  obtain ⟨x, -, exit, -, note⟩ := preview_eq (s := s) (a := a) rfl sourced
  obtain ⟨current, -⟩ := FilePlace.present_of_not_replaceable unable x
  rw [current] at note
  have empty : (s.previewPlace a).content? r.tree = none := by decide +kernel
  have nothing : ∀ html, ¬ (s.previewPlace a).Holds r.tree html := by
    intro html holds
    cases empty.symm.trans holds
  refine ⟨note, exit, by decide +kernel, fun claim => nothing _ (claim note), fun claim => ?_⟩
  rcases claim exit with ⟨html, -, holds⟩ | holds
  · exact nothing html holds
  · exact nothing placeholder holds

end Snippet.CommandLine.Site
