import Snippet.Language
import Snippet.Time
import Snippet.Json.Write
/-!
Preview documents: complete HTML pages built from a snippet.
-/

namespace Snippet.Preview

/-- A complete page that can be shown; it replaces whatever was shown before. -/
structure Document where
  /-- the page -/
  html : String
  /-- the language it was built from -/
  language : Language
  /-- when it was built -/
  generatedAt : Timestamp
  deriving Repr, DecidableEq

/-- The page of a snippet in a previewable language: HTML as it stands, styles on a sample page, a
script on a page with an output element. -/
def pageOf (source : String) : Language → Option String
  | .html => some source
  | .css => some ("<!DOCTYPE html><html><head><style>" ++ source ++
      "</style></head><body><h1>CSS Preview</h1><p>Your styles are applied here.</p></body></html>")
  | .javascript => some ("<!DOCTYPE html><html><head></head><body><h1>JavaScript Preview</h1>" ++
      "<div id=\"output\"></div><script>" ++ source ++ "</script></body></html>")
  | _ => none

/-- The document of a snippet, if its language is previewable. -/
def Document.build? (source : String) (language : Language) (now : Timestamp) : Option Document :=
  (pageOf source language).map fun html => ⟨html, language, now⟩

/-- The document as a JSON object. -/
def Document.toJson (d : Document) : Json String :=
  .obj [("htmlContent", .str d.html), ("sourceLanguage", .str d.language.tag),
    ("generatedAt", .str d.generatedAt.text)]

/-- What a surface shows while there is nothing to preview. -/
def placeholder : String :=
  "<!DOCTYPE html><html><head><title>Preview</title></head><body style=\"display:flex;" ++
  "align-items:center;justify-content:center;height:100vh;font-family:sans-serif;color:#888\">" ++
  "<p>Live preview is available for HTML, CSS and JavaScript.</p></body></html>"

end Snippet.Preview
