import CommandSpec.Session.Row

/-!
# Session/DatumAttribute — what plain data can be asked for

Plain data of each kind have attributes of their own, beside those that everything has.  Most are
what the data can do, of which only the kind is told.
-/

namespace CommandSpec.DatumAttribute

/-- The operators of numbers. -/
def numberOperators : List String := [
  "__abs__", "__add__", "__bool__", "__divmod__", "__float__", "__floordiv__", "__int__", "__mod__",
  "__mul__", "__neg__", "__pos__", "__pow__", "__radd__", "__rdivmod__", "__rfloordiv__",
  "__rmod__", "__rmul__", "__rpow__", "__rsub__", "__rtruediv__", "__sub__", "__truediv__"]

/-- The operators that only whole numbers have. -/
def wholeOperators : List String := [
  "__and__", "__index__", "__invert__", "__lshift__", "__or__", "__rand__", "__rlshift__",
  "__ror__", "__rrshift__", "__rshift__", "__rxor__", "__xor__"]

/-- The functions of numbers. -/
def numberFunctions : List String := [
  "__ceil__", "__floor__", "__getnewargs__", "__round__", "__trunc__", "as_integer_ratio",
  "conjugate"]

/-- The functions that only whole numbers have. -/
def wholeFunctions : List String := [
  "bit_count", "bit_length", "from_bytes", "to_bytes"]

/-- The functions that only doubles have. -/
def realFunctions : List String := [
  "__getformat__", "fromhex", "hex", "is_integer"]

/-- The operators of texts. -/
def textOperators : List String := [
  "__add__", "__contains__", "__getitem__", "__iter__", "__len__", "__mod__", "__mul__", "__rmod__",
  "__rmul__"]

/-- The functions of texts. -/
def textFunctions : List String := [
  "__getnewargs__", "capitalize", "casefold", "center", "count", "encode", "endswith", "expandtabs",
  "find", "format", "format_map", "index", "isalnum", "isalpha", "isascii", "isdecimal", "isdigit",
  "isidentifier", "islower", "isnumeric", "isprintable", "isspace", "istitle", "isupper", "join",
  "ljust", "lower", "lstrip", "maketrans", "partition", "removeprefix", "removesuffix", "replace",
  "rfind", "rindex", "rjust", "rpartition", "rsplit", "rstrip", "split", "splitlines", "startswith",
  "strip", "swapcase", "title", "translate", "upper", "zfill"]

/-- The operators of rows. -/
def rowOperators : List String := [
  "__add__", "__contains__", "__getitem__", "__iter__", "__len__", "__mul__", "__rmul__"]

/-- The functions of rows. -/
def rowFunctions : List String := [
  "__class_getitem__", "__getnewargs__", "count", "index"]

/-- The operators of lists. -/
def listOperators : List String := [
  "__add__", "__contains__", "__delitem__", "__iadd__", "__imul__", "__iter__", "__len__",
  "__mul__", "__rmul__", "__setitem__"]

/-- The functions of lists. -/
def listFunctions : List String := [
  "__class_getitem__", "__getitem__", "__reversed__", "append", "clear", "copy", "count", "extend",
  "index", "insert", "pop", "remove", "reverse", "sort"]

/-- The operators of records. -/
def recordOperators : List String := [
  "__delitem__", "__ior__", "__iter__", "__len__", "__or__", "__ror__", "__setitem__"]

/-- The functions of records. -/
def recordFunctions : List String := [
  "__class_getitem__", "__contains__", "__getitem__", "__reversed__", "clear", "copy", "fromkeys",
  "get", "items", "keys", "pop", "popitem", "setdefault", "update", "values"]

/-- The description of truth values. -/
def truthText : String :=
  "bool(x) -> bool\n\nReturns True when the argument x is true, False otherwise.\n" ++
  "The builtins True and False are the only two instances of the class bool.\n" ++
  "The class bool is a subclass of the class int, and cannot be subclassed."

/-- The description of whole numbers. -/
def wholeText : String :=
  "int([x]) -> integer\nint(x, base=10) -> integer\n\n" ++
  "Convert a number or string to an integer, or return 0 if no arguments\n" ++
  "are given.  If x is a number, return x.__int__().  For floating point\n" ++
  "numbers, this truncates towards zero.\n\n" ++
  "If x is not a number or if base is given, then x must be a string,\n" ++
  "bytes, or bytearray instance representing an integer literal in the\n" ++
  "given base.  The literal can be preceded by '+' or '-' and be surrounded\n" ++
  "by whitespace.  The base defaults to 10.  Valid bases are 0 and 2-36.\n" ++
  "Base 0 means to interpret the base from the string as an integer literal.\n" ++
  ">>> int('0b100', base=0)\n4"

/-- The description of doubles. -/
def realText : String :=
  "Convert a string or number to a floating point number, if possible."

/-- The description of texts. -/
def textText : String :=
  "str(object='') -> str\nstr(bytes_or_buffer[, encoding[, errors]]) -> str\n\n" ++
  "Create a new string object from the given object. If encoding or\n" ++
  "errors is specified, then the object must expose a data buffer\n" ++
  "that will be decoded using the given encoding and error handler.\n" ++
  "Otherwise, returns the result of object.__str__() (if defined)\nor repr(object).\n" ++
  "encoding defaults to sys.getdefaultencoding().\nerrors defaults to 'strict'."

/-- The description of rows. -/
def rowText : String :=
  "Built-in immutable sequence.\n\n" ++
  "If no argument is given, the constructor returns an empty tuple.\n" ++
  "If iterable is specified the tuple is initialized from iterable's items.\n\n" ++
  "If the argument is a tuple, the return value is the same object."

/-- The description of lists. -/
def listText : String :=
  "Built-in mutable sequence.\n\n" ++
  "If no argument is given, the constructor creates a new empty list.\n" ++
  "The argument must be an iterable if specified."

/-- The description of records. -/
def recordText : String :=
  "dict() -> new empty dictionary\n" ++
  "dict(mapping) -> new dictionary initialized from a mapping object's\n" ++
  "    (key, value) pairs\ndict(iterable) -> new dictionary initialized as if via:\n" ++
  "    d = \x7b\x7d\n    for k, v in iterable:\n        d[k] = v\n" ++
  "dict(**kwargs) -> new dictionary initialized with the name=value pairs\n" ++
  "    in the keyword argument list.  For example:  dict(one=1, two=2)"

/-- Names of which only the kind is told. -/
def things (kind : String) (names : List String) : List (String × Value) :=
  names.map (·, .thing kind 0)

/-- The attributes of data of a kind: its operators, its functions, and its description. -/
def table (operators functions : List String) (description : Value) : List (String × Value) :=
  things "method-wrapper" operators ++ things "builtin_function_or_method" functions ++
    [("__doc__", description)]

/-- What only data that can change have: no hash. -/
def unhashed : List (String × Value) := [("__hash__", .none)]

/-- The numbers that a whole number is made of. -/
def wholeParts (n : Int) : List (String × Value) :=
  [("real", .int n), ("imag", .int 0), ("numerator", .int n), ("denominator", .int 1)]

/-- The numbers that a double is made of. -/
def realParts (x : Number.Double) : List (String × Value) :=
  [("real", .plain (.real x)), ("imag", .plain (.real (.finite false 0)))]

/-- The attributes of a whole number with a description. -/
def ofInt (n : Int) (description : String) : List (String × Value) :=
  wholeParts n ++ table (numberOperators ++ wholeOperators) (numberFunctions ++ wholeFunctions)
    (.text description)

/-- **The attributes that a datum has for its kind.** -/
def of : Datum → List (String × Value)
  | .null => table ["__bool__"] [] .none
  | .bool b => ofInt (if b then 1 else 0) truthText
  | .int n => ofInt n wholeText
  | .real x =>
    realParts x ++ table numberOperators (numberFunctions ++ realFunctions) (.text realText)
  | .text _ => table textOperators textFunctions (.text textText)
  | .list _ => unhashed ++ table listOperators listFunctions (.text listText)
  | .record _ => unhashed ++ table recordOperators recordFunctions (.text recordText)

/-- The attributes of a row. -/
def ofRow : List (String × Value) := table rowOperators rowFunctions (.text rowText)

/-- The attributes of a datum that say what it is made of, and the kind that they belong to. -/
def parts : Datum → String × List String
  | .bool _ | .int _ => ("int", (wholeParts 0).map (·.1))
  | .real x => ("float", (realParts x).map (·.1))
  | _ => ("", [])

end CommandSpec.DatumAttribute
