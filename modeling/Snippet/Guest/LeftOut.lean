/-!
What is left out of the language that is modelled.

A program that makes use of any of this goes beyond the model: nothing is said of what it does from there on.
-/

namespace Snippet.Guest

/-- Does the interpreter give a name of this form a meaning of its own? -/
def isSpecialName (x : String) : Bool :=
  let s := x.toList
  4 < s.length && ['_', '_'].isPrefixOf s && ['_', '_'].isSuffixOf s

/-- Is a name of this form another one inside a class? -/
def isPrivateName (x : String) : Bool := ['_', '_'].isPrefixOf x.toList && !isSpecialName x

/-- Names that every program has besides those that are modelled. -/
def leftOutNames : List String :=
  ["BaseExceptionGroup", "ExceptionGroup", "NotImplemented", "UnicodeTranslateError", "aiter", "anext",
    "breakpoint", "bytearray", "classmethod", "compile", "complex", "copyright", "credits", "dir",
    "eval", "exec", "frozenset", "globals", "hash", "help", "id", "license", "locals", "memoryview", "open",
    "property", "set", "slice", "staticmethod", "vars"]

/-- Functions that are classes to programs. -/
def classLike : List String := ["enumerate", "filter", "map", "reversed", "zip"]

/-- Special names of a class that mean what they mean to the interpreter; others are left out. -/
def specialMethods : List String :=
  ["__init__", "__str__", "__repr__", "__format__", "__eq__", "__bool__", "__len__", "__contains__",
    "__iter__", "__next__", "__getitem__", "__setitem__", "__call__", "__int__", "__lt__", "__le__",
    "__gt__", "__ge__", "__add__", "__sub__", "__mul__", "__truediv__", "__floordiv__", "__mod__",
    "__pow__", "__and__", "__or__", "__xor__", "__lshift__", "__rshift__"]

/-- Attributes that the values of a class have besides those that are modelled. -/
def leftOutAttrs : String → List String
  | "str" => ["expandtabs", "format_map", "istitle", "maketrans", "rindex", "translate"]
  | "bytes" =>
    ["capitalize", "center", "count", "decode", "endswith", "expandtabs", "find", "fromhex", "hex",
      "index", "isalnum", "isalpha", "isascii", "isdigit", "islower", "isspace", "istitle", "isupper",
      "join", "ljust", "lower", "lstrip", "maketrans", "partition", "removeprefix", "removesuffix",
      "replace", "rfind", "rindex", "rjust", "rpartition", "rsplit", "rstrip", "split", "splitlines",
      "startswith", "strip", "swapcase", "title", "translate", "upper", "zfill"]
  | "int" =>
    ["as_integer_ratio", "bit_count", "conjugate", "denominator", "from_bytes", "imag", "to_bytes"]
  | "bool" =>
    ["as_integer_ratio", "bit_count", "conjugate", "denominator", "from_bytes", "imag", "to_bytes"]
  | "float" => ["as_integer_ratio", "conjugate", "fromhex", "hex", "imag", "real"]
  | "dict" => ["fromkeys", "popitem"]
  | "range" => ["count", "index", "start", "step", "stop"]
  | "dict_keys" => ["isdisjoint", "mapping"]
  | "dict_values" => ["mapping"]
  | "dict_items" => ["isdisjoint", "mapping"]
  | "type" => ["mro"]
  | "_io.StringIO" =>
    ["detach", "errors", "fileno", "line_buffering", "newlines", "seek", "seekable", "tell", "truncate"]
  | "_HostStdin" =>
    ["_id", "_capture", "_eof", "detach", "errors", "fileno", "newlines", "seek", "seekable", "tell",
      "truncate"]
  | "_io.TextIOWrapper" =>
    ["buffer", "detach", "errors", "fileno", "line_buffering", "mode", "name", "newlines",
      "reconfigure", "seek", "seekable", "tell", "truncate", "write_through"]
  | _ => []

/-- What classes that every program has keep with exceptions besides what is modelled, by the class. -/
def leftOutFields : List (String × List String) :=
  [("OSError", ["characters_written", "filename2"]),
    ("SyntaxError", ["filename", "lineno", "offset", "text", "end_lineno", "end_offset",
      "print_file_and_line"]),
    ("ImportError", ["name", "path"]), ("NameError", ["name"]), ("AttributeError", ["name", "obj"]),
    ("UnicodeDecodeError", ["encoding", "object", "start", "end", "reason"]),
    ("UnicodeEncodeError", ["encoding", "object", "start", "end", "reason"])]

end Snippet.Guest
