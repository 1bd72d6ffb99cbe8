import Snippet.Language
import Snippet.Files.Tree
/-!
Where source text comes from, and which language it is taken for.
-/

namespace Snippet

open Snippet.Text

/-- Why no source text, or no language for it, could be had. -/
inductive SourceFault where
  /-- the file does not exist -/
  | missing (path : String)
  /-- something could not be read; `what` says what -/
  | unreadable (what reason : String)
  /-- neither a tag nor an extension says which language it is -/
  | unknownLanguage
  /-- what was given is not acceptable; the message says why -/
  | rejected (message : String)
  deriving Repr, DecidableEq

namespace SourceFault

/-- The wording of a fault: the outermost message, then its causes. -/
def messages : SourceFault → List String
  | .missing path => ["Source file '" ++ path ++ "' does not exist"]
  | .unreadable what reason => ["reading " ++ what, reason]
  | .unknownLanguage => ["cannot infer the language: pass --lang"]
  | .rejected message => [message]

end SourceFault

/-- Source text and the file it came from, if it came from one. -/
structure SourceText where
  text : String
  path : Option String
  deriving Repr, DecidableEq

namespace SourceText

/-- What is said of bytes that are not text. -/
def notText : String := "stream did not contain valid UTF-8"

/-- Bytes as text. -/
def decode (what : String) (content : List UInt8) : Except SourceFault String :=
  match Utf8.decode? content with
  | some cs => .ok (String.ofList cs)
  | none => .error (.unreadable what notText)

/-- The text of a file that is known to exist. -/
def readText (tree : Files.Tree) (from_ : Files.Location) (path what : String) :
    Except SourceFault String :=
  match tree.read from_ path with
  | .ok content => decode what content
  | .error e => .error (.unreadable what e.message)

/-- The source text in a file. -/
def ofFile (tree : Files.Tree) (from_ : Files.Location) (path : String) :
    Except SourceFault SourceText :=
  if tree.exists? from_ path then (readText tree from_ path path).map fun text => ⟨text, some path⟩
  else .error (.missing path)

/-- The source text of a command: a file, or what is piped in when no file or a dash is given. -/
def ofArgument (tree : Files.Tree) (from_ : Files.Location) (piped : List UInt8) :
    Option String → Except SourceFault SourceText
  | some path =>
    if path = "-" then (decode "source from stdin" piped).map (⟨·, none⟩)
    else ofFile tree from_ path
  | none => (decode "source from stdin" piped).map (⟨·, none⟩)

/-- Refuses, with a message, text in which there is nothing to see. -/
def requireCode (s : SourceText) (message : String) : Except SourceFault Unit :=
  if isBlankText s.text then .error (.rejected message) else .ok ()

end SourceText

/-- The language of a source: that of the tag if one is given, else that of the file extension. -/
def resolveLanguage (tag path : Option String) : Except SourceFault Language :=
  match tag with
  | some tag => .ok (.ofTag tag)
  | none =>
    match path.bind Files.extension? with
    | some extension => .ok (.ofExtension extension)
    | none => .error .unknownLanguage

end Snippet
