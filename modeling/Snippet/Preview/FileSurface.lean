import Snippet.Preview.Renderer
import Snippet.Files.Tree
/-!
A preview kept in a file.

The file is replaced as a whole: the page is written beside it, under a staging name, and then given
its name, so that a reader never sees half a page.
-/

namespace Snippet.Preview

open Snippet.Files

/-- Where a preview file is: its path name, seen from a directory. -/
structure FilePlace where
  from_ : Location
  path : String
  deriving Repr, DecidableEq

/-- The name under which a page is written before it takes the place of the preview file. -/
def FilePlace.staging (p : FilePlace) : String := withExtension p.path "html.partial"

/-- Replaces the content of the preview file: makes its directory, writes the staging file, renames
it. What was done before a failure stays done. -/
def FilePlace.replace (p : FilePlace) (t : Tree) (html : String) : Tree × Except Fault Unit :=
  let (t, made) := match parent? p.path with
    | some dir => t.createDirectories p.from_ dir
    | none => (t, .ok ())
  match made with
  | .error e => (t, .error e)
  | .ok () =>
    match t.write p.from_ p.staging (Text.Utf8.encode html) with
    | .error e => (t, .error e)
    | .ok t =>
      match t.rename p.from_ p.staging p.path with
      | .error e => (t, .error e)
      | .ok t => (t, .ok ())

/-- A file as a surface. A placeholder that cannot be written is given up on silently. -/
def FilePlace.surface (p : FilePlace) : Surface Tree where
  render t d :=
    match p.replace t d.html with
    | (t, .ok ()) => (t, true)
    | (t, .error _) => (t, false)
  showPlaceholder t := (p.replace t placeholder).1

/-- A surface in memory: it notes what it was asked to show and fails while it is told to. -/
structure Recorder where
  /-- every page shown, in order -/
  rendered : List String
  /-- how often the placeholder was shown -/
  placeholders : Nat
  /-- showing a page fails -/
  failing : Bool
  deriving Repr, DecidableEq

/-- A recorder as a surface. -/
def Recorder.surface : Surface Recorder where
  render s d :=
    if s.failing then (s, false) else ({ s with rendered := s.rendered ++ [d.html] }, true)
  showPlaceholder s := { s with placeholders := s.placeholders + 1 }

end Snippet.Preview
