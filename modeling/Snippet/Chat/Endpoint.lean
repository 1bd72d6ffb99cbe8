import Snippet.Text.Blank
import Snippet.Text.Lines
import Snippet.Text.Search
import Snippet.Text.Utf8
/-!
Where chat requests go.

`normalizeBase` gives a configured address its version segment. `requestTarget?` is what stands in
the request line for an address, after the part that names the server: the path with its dot segments
taken out, what may not stand in it escaped, and the query.
-/

namespace Snippet.Chat

open Snippet.Text

/-- The address that is used unless another one is configured. -/
def standardBase : String := "https://api.openai.com/v1"

/-- The characters without slashes at the end. -/
def trimSlashes (s : List Char) : List Char := dropTrailing (· == '/') s

/-- Does a version segment stand in the address already? -/
def hasVersion (s : List Char) : Bool := "/v1".toList.isSuffixOf s || occurs "/v1/".toList s

/-- The base address that a configured one stands for. -/
def normalizeBase (configured : String) : String :=
  if configured = "default" ∨ configured = "" then standardBase
  else
    let s := trimSlashes configured.toList
    String.ofList (if hasVersion s then s else s ++ "/v1".toList)

/-- The address of the completions below a base address. -/
def completionsAddress (base : String) : String := base ++ "/chat/completions"

/-! ## The request line -/

/-- A byte as an escape. -/
def percentEscape (b : UInt8) : List Char :=
  let digit (n : Nat) : Char := (Nat.digitChar n).toUpper
  ['%', digit (b.toNat / 16), digit (b.toNat % 16)]

/-- The escapes of the bytes of a character. -/
def escapeBytes (c : Char) : List Char :=
  (Utf8.encode (String.singleton c)).flatMap percentEscape

/-- Must the character be escaped wherever it stands? -/
def isControlOrWide (c : Char) : Bool := c.toNat < 0x20 || 0x7E < c.toNat

/-- A character of a path. -/
def pathChar (c : Char) : List Char :=
  if isControlOrWide c || " \"<>\x60\x7b\x7d".toList.contains c then escapeBytes c else [c]

/-- A character of a query. -/
def queryChar (c : Char) : List Char :=
  if isControlOrWide c || " \"<>'".toList.contains c then escapeBytes c else [c]

/-- A segment that stands for the directory itself. -/
def isDot (segment : String) : Bool := [".", "%2e"].contains (segment.map Char.toLower)

/-- A segment that stands for the directory above. -/
def isDotDot (segment : String) : Bool :=
  ["..", ".%2e", "%2e.", "%2e%2e"].contains (segment.map Char.toLower)

/-- The segments that are left when dot segments have been carried out. A dot segment at the end
leaves an empty one behind. -/
def resolveSegments (kept : List String) : List String → List String
  | [] => kept
  | [last] =>
    if isDot last then kept ++ [""]
    else if isDotDot last then kept.dropLast ++ [""]
    else kept ++ [last]
  | s :: rest =>
    if isDot s then resolveSegments kept rest
    else if isDotDot s then resolveSegments kept.dropLast rest
    else resolveSegments (kept ++ [s]) rest

/-- The path of a request line. A backslash separates segments like a slash. -/
def requestPath (path : List Char) : List Char :=
  let path := path.map fun c => if c == '\\' then '/' else c
  let pieces := match path with
    | '/' :: rest => splitAt '/' rest
    | _ => splitAt '/' path
  let segments := resolveSegments [] (pieces.map fun p => String.ofList (p.flatMap pathChar))
  '/' :: (join "/" segments).toList

/-- What stands in the request line for an address, given what follows its server; none if the
address is malformed there. Tabs and line ends do not count, a fragment is not sent. -/
def requestTarget? (address : String) : Option String :=
  let s := address.toList.filter fun c => c != '\t' && c != '\n' && c != '\r'
  let s := s.takeWhile (· != '#')
  let path := s.takeWhile (· != '?')
  match path.head? with
  | some c =>
    if c == '/' || c == '\\' then
      some (String.ofList (requestPath path ++ (s.dropWhile (· != '?')).flatMap queryChar))
    else none
  | none => some (String.ofList ('/' :: (s.dropWhile (· != '?')).flatMap queryChar))

end Snippet.Chat
