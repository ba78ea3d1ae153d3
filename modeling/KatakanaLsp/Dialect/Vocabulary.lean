/-!
# The vocabulary that the dialect has to spell

The keywords of Python 3.12, its built-in functions, and those of its built-in types that are
called like functions. The dialect is complete when every name here is the meaning of some token.
-/

namespace KatakanaLsp.Dialect.Vocabulary

/-- The keywords. -/
def keywords : List String :=
  ["False", "None", "True", "and", "as", "assert", "async", "await", "break", "class",
   "continue", "def", "del", "elif", "else", "except", "finally", "for", "from", "global", "if",
   "import", "in", "is", "lambda", "nonlocal", "not", "or", "pass", "raise", "return", "try",
   "while", "with", "yield"]

/-- The built-in functions that are not themselves types. -/
def builtinFunctions : List String :=
  ["abs", "aiter", "all", "anext", "any", "ascii", "bin", "breakpoint", "callable", "chr",
   "compile", "copyright", "credits", "delattr", "dir", "divmod", "eval", "exec", "exit",
   "format", "getattr", "globals", "hasattr", "hash", "help", "hex", "id", "input",
   "isinstance", "issubclass", "iter", "len", "license", "locals", "max", "min", "next", "oct",
   "open", "ord", "pow", "print", "quit", "repr", "round", "setattr", "sorted", "sum", "vars"]

/-- The built-in types that are called like functions. -/
def builtinTypes : List String :=
  ["bool", "bytearray", "bytes", "classmethod", "complex", "dict", "enumerate", "filter",
   "float", "frozenset", "int", "list", "map", "memoryview", "object", "property", "range",
   "reversed", "set", "slice", "staticmethod", "str", "super", "tuple", "type", "zip"]

end KatakanaLsp.Dialect.Vocabulary
