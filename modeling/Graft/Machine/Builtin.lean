set_option autoImplicit false

/-! # What the language supplies

The classes that the language supplies, which of them inherit from which, and what members they
have. -/

namespace Graft.Machine.Builtin

/-- The exception classes, each with the class it inherits from. -/
def exceptionParents : List (String × String) := [
  ("BaseException", "object"), ("Exception", "BaseException"),
  ("KeyboardInterrupt", "BaseException"), ("SystemExit", "BaseException"),
  ("GeneratorExit", "BaseException"), ("ArithmeticError", "Exception"),
  ("ZeroDivisionError", "ArithmeticError"), ("OverflowError", "ArithmeticError"),
  ("FloatingPointError", "ArithmeticError"), ("AssertionError", "Exception"),
  ("AttributeError", "Exception"), ("BufferError", "Exception"), ("EOFError", "Exception"),
  ("ImportError", "Exception"), ("ModuleNotFoundError", "ImportError"),
  ("LookupError", "Exception"), ("IndexError", "LookupError"), ("KeyError", "LookupError"),
  ("MemoryError", "Exception"), ("NameError", "Exception"), ("UnboundLocalError", "NameError"),
  ("OSError", "Exception"), ("BlockingIOError", "OSError"), ("ChildProcessError", "OSError"),
  ("ConnectionError", "OSError"), ("BrokenPipeError", "ConnectionError"),
  ("ConnectionAbortedError", "ConnectionError"), ("ConnectionRefusedError", "ConnectionError"),
  ("ConnectionResetError", "ConnectionError"), ("FileExistsError", "OSError"),
  ("FileNotFoundError", "OSError"), ("InterruptedError", "OSError"),
  ("IsADirectoryError", "OSError"), ("NotADirectoryError", "OSError"),
  ("PermissionError", "OSError"), ("ProcessLookupError", "OSError"), ("TimeoutError", "OSError"),
  ("ReferenceError", "Exception"), ("RuntimeError", "Exception"),
  ("NotImplementedError", "RuntimeError"), ("RecursionError", "RuntimeError"),
  ("StopAsyncIteration", "Exception"), ("StopIteration", "Exception"),
  ("SyntaxError", "Exception"), ("IndentationError", "SyntaxError"),
  ("TabError", "IndentationError"), ("SystemError", "Exception"), ("TypeError", "Exception"),
  ("ValueError", "Exception"), ("UnicodeError", "ValueError"),
  ("UnicodeDecodeError", "UnicodeError"), ("UnicodeEncodeError", "UnicodeError"),
  ("UnicodeTranslateError", "UnicodeError"), ("Warning", "Exception"),
  ("BytesWarning", "Warning"), ("DeprecationWarning", "Warning"), ("EncodingWarning", "Warning"),
  ("FutureWarning", "Warning"), ("ImportWarning", "Warning"),
  ("PendingDeprecationWarning", "Warning"), ("ResourceWarning", "Warning"),
  ("RuntimeWarning", "Warning"), ("SyntaxWarning", "Warning"), ("UnicodeWarning", "Warning"),
  ("UserWarning", "Warning")]

/-- The class of operating system errors that an error number stands for. -/
def classOfErrorNumber : Int → String
  | 1 | 13 => "PermissionError"
  | 2 => "FileNotFoundError"
  | 3 => "ProcessLookupError"
  | 4 => "InterruptedError"
  | 10 => "ChildProcessError"
  | 11 | 114 | 115 => "BlockingIOError"
  | 17 => "FileExistsError"
  | 20 => "NotADirectoryError"
  | 21 => "IsADirectoryError"
  | 32 | 108 => "BrokenPipeError"
  | 103 => "ConnectionAbortedError"
  | 104 => "ConnectionResetError"
  | 110 => "TimeoutError"
  | 111 => "ConnectionRefusedError"
  | _ => "OSError"

/-- The class that a class inherits from. -/
def parent (cls : String) : Option String :=
  match cls with
  | "object" => none
  | "bool" => some "int"
  | "FlowControl" | "InsertLocation" => some "str"
  | cls =>
    match exceptionParents.find? (·.1 == cls) with
    | some (_, p) => some p
    | none => some "object"

/-- A class and those it inherits from, up to the given number of them. -/
def lineage : Nat → String → List String
  | 0, _ => []
  | n + 1, cls =>
    cls :: match parent cls with
      | some p => lineage n p
      | none => []

/-- A class and those it inherits from. -/
def order (cls : String) : List String := lineage 10 cls

/-- Whether a class is an exception class. -/
def isException (cls : String) : Bool := exceptionParents.any (·.1 == cls)

/-- The classes that programs can name, exception classes left out. -/
def namedClasses : List String := ["object", "type", "int", "bool", "float", "str", "bytes", "list",
  "tuple", "dict", "set", "range", "slice", "super", "staticmethod", "classmethod", "property"]

/-- The functions that programs can name. -/
def namedFunctions : List String := ["len", "max", "min", "sum", "print", "globals", "repr",
  "callable", "isinstance", "getattr", "hasattr", "setattr", "abs", "iter", "next", "vars"]

/-- How a class keeps a member. -/
inductive MemberKind
  | method
  /-- A method that is not called on an instance. -/
  | static
  /-- A method that is called on the class. -/
  | classMethod
  /-- A special method. -/
  | special
  | data
deriving DecidableEq, Repr

/-- The special methods that all classes have. -/
def objectSpecials : List String := ["__delattr__", "__dir__", "__eq__", "__format__", "__ge__",
  "__getattribute__", "__getstate__", "__gt__", "__hash__", "__init__", "__le__", "__lt__",
  "__ne__", "__reduce__", "__reduce_ex__", "__repr__", "__setattr__", "__sizeof__", "__str__"]

/-- The special methods of numbers. -/
def numberSpecials : List String := ["__abs__", "__add__", "__bool__", "__divmod__", "__float__",
  "__floordiv__", "__int__", "__mod__", "__mul__", "__neg__", "__pos__", "__pow__", "__radd__",
  "__rdivmod__", "__rfloordiv__", "__rmod__", "__rmul__", "__rpow__", "__rsub__", "__rtruediv__",
  "__sub__", "__truediv__"]

/-- The special methods of sequences. -/
def sequenceSpecials : List String := ["__add__", "__contains__", "__getitem__", "__iter__",
  "__len__", "__mul__", "__rmul__"]

/-- The methods of classes. -/
def methods : String → List String
  | "int" => ["as_integer_ratio", "bit_count", "bit_length", "conjugate", "to_bytes"]
  | "float" => ["as_integer_ratio", "conjugate", "hex", "is_integer"]
  | "str" => ["capitalize", "casefold", "center", "count", "encode", "endswith", "expandtabs",
    "find", "format", "format_map", "index", "isalnum", "isalpha", "isascii", "isdecimal",
    "isdigit", "isidentifier", "islower", "isnumeric", "isprintable", "isspace", "istitle",
    "isupper", "join", "ljust", "lower", "lstrip", "partition", "removeprefix", "removesuffix",
    "replace", "rfind", "rindex", "rjust", "rpartition", "rsplit", "rstrip", "split", "splitlines",
    "startswith", "strip", "swapcase", "title", "translate", "upper", "zfill"]
  | "bytes" => ["capitalize", "center", "count", "decode", "endswith", "expandtabs", "find", "hex",
    "index", "isalnum", "isalpha", "isascii", "isdigit", "islower", "isspace", "istitle",
    "isupper", "join", "ljust", "lower", "lstrip", "partition", "removeprefix", "removesuffix",
    "replace", "rfind", "rindex", "rjust", "rpartition", "rsplit", "rstrip", "split", "splitlines",
    "startswith", "strip", "swapcase", "title", "translate", "upper", "zfill"]
  | "list" => ["append", "clear", "copy", "count", "extend", "index", "insert", "pop", "remove",
    "reverse", "sort"]
  | "tuple" | "range" => ["count", "index"]
  | "dict" => ["clear", "copy", "get", "items", "keys", "pop", "popitem", "setdefault", "update",
    "values"]
  | "set" => ["add", "clear", "copy", "difference", "difference_update", "discard", "intersection",
    "intersection_update", "isdisjoint", "issubset", "issuperset", "pop", "remove",
    "symmetric_difference", "symmetric_difference_update", "union", "update"]
  | "mappingproxy" => ["copy", "get", "items", "keys", "values"]
  | "generator" => ["close", "send", "throw"]
  | "coroutine" => ["close", "send", "throw"]
  | "async_generator" => ["aclose", "asend", "athrow"]
  | "type" => ["mro", "__subclasses__"]
  | "property" => ["deleter", "getter", "setter"]
  | "BaseException" => ["add_note", "with_traceback"]
  | _ => []

/-- The special methods of classes besides those of all classes. -/
def specials : String → List String
  | "int" | "float" => numberSpecials
  | "str" | "bytes" | "tuple" | "range" => sequenceSpecials
  | "list" => "__setitem__" :: "__delitem__" :: sequenceSpecials
  | "dict" => ["__contains__", "__delitem__", "__getitem__", "__iter__", "__len__", "__setitem__"]
  | "set" => ["__contains__", "__iter__", "__len__"]
  | "mappingproxy" => ["__contains__", "__getitem__", "__iter__", "__len__"]
  | "function" | "method" | "builtin_function_or_method" | "type" | "staticmethod" | "partial"
  | "method-wrapper" | "wrapper_descriptor" | "method_descriptor" => ["__call__"]
  | "generator" => ["__iter__", "__next__"]
  | _ => []

/-- The attributes of instances of classes that are no methods. -/
def data : String → List String
  | "object" => ["__class__", "__doc__"]
  | "int" => ["denominator", "imag", "numerator", "real"]
  | "float" => ["imag", "real"]
  | "range" | "slice" => ["start", "step", "stop"]
  | "type" => ["__annotations__", "__base__", "__bases__", "__basicsize__", "__dict__", "__module__",
    "__mro__", "__name__", "__qualname__"]
  | "FlowControl" | "InsertLocation" => ["name", "value"]
  | _ => []

/-- How a class keeps a member of its own. -/
def ownMember (cls name : String) : Option MemberKind :=
  if (methods cls).contains name then some .method
  else if (specials cls).contains name then some .special
  else if (data cls).contains name then some .data
  else if cls == "object" && objectSpecials.contains name then some .special
  else if name == "maketrans" && (cls == "str" || cls == "bytes") then some .static
  else if name == "__new__" then some .static
  else if name == "fromkeys" && cls == "dict" then some .classMethod
  else if name == "from_bytes" && cls == "int" then some .classMethod
  else if name == "fromhex" && (cls == "float" || cls == "bytes") then some .classMethod
  else if cls == "object" && (name == "__init_subclass__" || name == "__subclasshook__") then
    some .classMethod
  else none

/-- The text that documents a function or class. -/
def doc? : String → Option String
  | "len" => some "Return the number of items in a container."
  | "max" => some ("max(iterable, *[, default=obj, key=func]) -> value\n"
    ++ "max(arg1, arg2, *args, *[, key=func]) -> value\n\n"
    ++ "With a single iterable argument, return its biggest item. The\n"
    ++ "default keyword-only argument specifies an object to return if\n"
    ++ "the provided iterable is empty.\n"
    ++ "With two or more arguments, return the largest argument.")
  | "min" => some ("min(iterable, *[, default=obj, key=func]) -> value\n"
    ++ "min(arg1, arg2, *args, *[, key=func]) -> value\n\n"
    ++ "With a single iterable argument, return its smallest item. The\n"
    ++ "default keyword-only argument specifies an object to return if\n"
    ++ "the provided iterable is empty.\n"
    ++ "With two or more arguments, return the smallest argument.")
  | "sum" => some ("Return the sum of a 'start' value (default: 0) plus an iterable of numbers\n\n"
    ++ "When the iterable is empty, return the start value.\n"
    ++ "This function is intended specifically for use with numeric values and may\n"
    ++ "reject non-numeric types.")
  | "print" => some ("Prints the values to a stream, or to sys.stdout by default.\n\n"
    ++ "  sep\n    string inserted between values, default a space.\n"
    ++ "  end\n    string appended after the last value, default a newline.\n"
    ++ "  file\n    a file-like object (stream); defaults to the current sys.stdout.\n"
    ++ "  flush\n    whether to forcibly flush the stream.")
  | "repr" => some ("Return the canonical string representation of the object.\n\n"
    ++ "For many object types, including most builtins, eval() will return\n"
    ++ "an object equal to that object.")
  | "callable" => some ("Return whether the object is callable (i.e., some kind of function).\n\n"
    ++ "Note that classes are callable, as are instances of classes with a\n"
    ++ "__call__() method.")
  | "abs" => some "Return the absolute value of the argument."
  | "globals" => some ("Return the dictionary containing the current scope's global variables.\n\n"
    ++ "NOTE: Updates to this dictionary *will* affect name lookups in the current\n"
    ++ "global scope and vice-versa.")
  | "partial" => some ("partial(func, *args, **keywords) - new function with partial application\n"
    ++ "    of the given arguments and keywords.\n")
  | "object" => some ("The base class of the class hierarchy.\n\n"
    ++ "When called, it accepts no arguments and returns a new featureless\n"
    ++ "instance that has no instance attributes and cannot be given any.\n")
  | "SimpleNamespace" => some "A simple attribute-based namespace.\n\nSimpleNamespace(**kwargs)"
  | _ => none

end Graft.Machine.Builtin
