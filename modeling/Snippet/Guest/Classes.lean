/-!
The classes and the functions that every program has, by their names.
-/

namespace Snippet.Guest

/-- The classes right above a class that every program has. -/
def parentNames : String → List String
  | "object" => []
  | "BaseException" => ["object"]
  | "SystemExit" => ["BaseException"]
  | "KeyboardInterrupt" => ["BaseException"]
  | "GeneratorExit" => ["BaseException"]
  | "Exception" => ["BaseException"]
  | "ZeroDivisionError" => ["ArithmeticError"]
  | "OverflowError" => ["ArithmeticError"]
  | "FloatingPointError" => ["ArithmeticError"]
  | "IndexError" => ["LookupError"]
  | "KeyError" => ["LookupError"]
  | "UnicodeError" => ["ValueError"]
  | "UnicodeDecodeError" => ["UnicodeError"]
  | "UnicodeEncodeError" => ["UnicodeError"]
  | "UnsupportedOperation" => ["OSError", "ValueError"]
  | "NotImplementedError" => ["RuntimeError"]
  | "RecursionError" => ["RuntimeError"]
  | "FileNotFoundError" => ["OSError"]
  | "FileExistsError" => ["OSError"]
  | "PermissionError" => ["OSError"]
  | "IsADirectoryError" => ["OSError"]
  | "NotADirectoryError" => ["OSError"]
  | "InterruptedError" => ["OSError"]
  | "TimeoutError" => ["OSError"]
  | "ProcessLookupError" => ["OSError"]
  | "ChildProcessError" => ["OSError"]
  | "BlockingIOError" => ["OSError"]
  | "ConnectionError" => ["OSError"]
  | "BrokenPipeError" => ["ConnectionError"]
  | "ConnectionAbortedError" => ["ConnectionError"]
  | "ConnectionRefusedError" => ["ConnectionError"]
  | "ConnectionResetError" => ["ConnectionError"]
  | "ModuleNotFoundError" => ["ImportError"]
  | "UnboundLocalError" => ["NameError"]
  | "IndentationError" => ["SyntaxError"]
  | "TabError" => ["IndentationError"]
  | "UserWarning" => ["Warning"]
  | "DeprecationWarning" => ["Warning"]
  | "RuntimeWarning" => ["Warning"]
  | "FutureWarning" => ["Warning"]
  | "SyntaxWarning" => ["Warning"]
  | "PendingDeprecationWarning" => ["Warning"]
  | "ImportWarning" => ["Warning"]
  | "UnicodeWarning" => ["Warning"]
  | "BytesWarning" => ["Warning"]
  | "ResourceWarning" => ["Warning"]
  | "EncodingWarning" => ["Warning"]
  | "bool" => ["int"]
  | "ArithmeticError" => ["Exception"]
  | "AssertionError" => ["Exception"]
  | "AttributeError" => ["Exception"]
  | "BufferError" => ["Exception"]
  | "EOFError" => ["Exception"]
  | "ImportError" => ["Exception"]
  | "LookupError" => ["Exception"]
  | "MemoryError" => ["Exception"]
  | "NameError" => ["Exception"]
  | "OSError" => ["Exception"]
  | "ReferenceError" => ["Exception"]
  | "RuntimeError" => ["Exception"]
  | "StopAsyncIteration" => ["Exception"]
  | "StopIteration" => ["Exception"]
  | "SyntaxError" => ["Exception"]
  | "SystemError" => ["Exception"]
  | "TypeError" => ["Exception"]
  | "ValueError" => ["Exception"]
  | "Warning" => ["Exception"]
  | _ => ["object"]

/-- The exceptions that every program has. -/
def exceptionNames : List String :=
  ["BaseException", "SystemExit", "KeyboardInterrupt", "GeneratorExit", "Exception",
    "ZeroDivisionError", "OverflowError", "FloatingPointError", "IndexError", "KeyError",
    "UnicodeError", "UnicodeDecodeError", "UnicodeEncodeError", "NotImplementedError",
    "RecursionError", "FileNotFoundError", "FileExistsError", "PermissionError", "IsADirectoryError",
    "NotADirectoryError", "InterruptedError", "TimeoutError", "ProcessLookupError",
    "ChildProcessError", "BlockingIOError", "ConnectionError", "BrokenPipeError",
    "ConnectionAbortedError", "ConnectionRefusedError", "ConnectionResetError",
    "ModuleNotFoundError", "UnboundLocalError", "IndentationError", "TabError", "UserWarning",
    "DeprecationWarning", "RuntimeWarning", "FutureWarning", "SyntaxWarning",
    "PendingDeprecationWarning", "ImportWarning", "UnicodeWarning", "BytesWarning", "ResourceWarning",
    "EncodingWarning", "ArithmeticError",
    "AssertionError", "AttributeError", "BufferError", "EOFError", "ImportError", "LookupError",
    "MemoryError", "NameError", "OSError", "ReferenceError", "RuntimeError", "StopAsyncIteration",
    "StopIteration", "SyntaxError", "SystemError", "TypeError", "ValueError", "Warning"]

/-- Functions that every program has. -/
def nativeNames : List String :=
  ["print", "repr", "len", "abs", "min", "max", "sum", "sorted", "reversed", "enumerate",
    "zip", "map", "filter", "any", "all", "chr", "ord", "hex", "bin", "oct", "round", "pow", "divmod",
    "isinstance", "issubclass", "callable", "getattr", "setattr", "hasattr", "delattr", "iter", "next",
    "format", "exit", "quit", "ascii"]

/-- Classes of values that every program has. -/
def classNames : List String :=
  ["object", "int", "bool", "float", "str", "bytes", "list", "tuple", "dict", "range", "type", "super"]

/-- How far classes are looked up. -/
def classDepth : Nat := 64

/-- Is a class that every program has below another one? -/
def nameBelow (target : String) : Nat → String → Bool
  | 0, _ => false
  | n + 1, name => name == target || (parentNames name).any (nameBelow target n)

/-- Exceptions with rules of their own for what they keep of their arguments, or for their text. -/
def ownRules : List String :=
  ["SystemExit", "StopIteration", "OSError", "SyntaxError", "ImportError", "KeyError",
    "UnicodeDecodeError", "UnicodeEncodeError"]

/-- The class whose rules an exception follows, given the classes that it is below. -/
def ruleOf (below : String → Bool) : String := (ownRules.find? below).getD "BaseException"

end Snippet.Guest
