import CommandSpec.Command.Reader
import CommandSpec.Logged
import CommandSpec.Text.Case
import CommandSpec.Text.DecimalDigit

/-!
# Converters — making values of tokens

The converters that fields are declared with: texts, numbers, truth values, lengths, upper case, the
entries of a dictionary, the names of a trie, and whole commands or paths.
-/

namespace CommandSpec.Converter

/-- A converter that logs nothing. -/
def silent (label : String) (convert : String → Except Fault Value) : Converter :=
  { label, convert := fun token => (convert token, []) }

/-! ## Numbers -/

/-- The number that decimal digits stand for, after those read so far; an underscore may stand
between two digits. -/
def digitsFrom (n : Nat) : List Char → Option Nat
  | [] => some n
  | '_' :: c :: cs =>
    match Text.digitValue? c with
    | some d => digitsFrom (10 * n + d) cs
    | none => none
  | c :: cs =>
    match Text.digitValue? c with
    | some d => digitsFrom (10 * n + d) cs
    | none => none

/-- The number that decimal digits stand for. -/
def digits : List Char → Option Nat
  | [] => none
  | c :: cs => (Text.digitValue? c).bind (digitsFrom · cs)

/-- Blanks that may stand around a number; the separators of ASCII may not. -/
def isPadding (c : Char) : Bool := Text.isBlank c && !(0x1C ≤ c.toNat && c.toNat ≤ 0x1F)

/-- Whether a text is negative, and its text without padding and sign. -/
def signed (s : List Char) : Bool × List Char :=
  match ((s.dropWhile isPadding).reverse.dropWhile isPadding).reverse with
  | '-' :: cs => (true, cs)
  | '+' :: cs => (false, cs)
  | cs => (false, cs)

/-- How many digits a number may have. -/
def digitLimit : Nat := 4300

/-- The digits and underscores that a text begins with. -/
def numeral (cs : List Char) : List Char :=
  cs.takeWhile fun c => c = '_' || (Text.digitValue? c).isSome

/-- Why a text stands for no number. -/
inductive IntegerFault where
  | malformed
  /-- The text begins with a number of more digits than the limit allows. -/
  | tooLong (digits : Nat)
  deriving DecidableEq, Repr

/-- **The whole number that a text stands for**: blanks around it, a sign, and decimal digits of any
script.  The limit on digits counts before what follows the digits. -/
def integer (s : List Char) : Except IntegerFault Int :=
  let (isNegative, cs) := signed s
  let first := numeral cs
  let count := first.countP (· ≠ '_')
  if digitLimit < count && (digits first).isSome then .error (.tooLong count)
  else match digits cs with
    | some n => .ok (if isNegative then -(n : Int) else n)
    | none => .error .malformed

/-- What is reported of a token that stands for no number; a long token is shown in part. -/
def IntegerFault.message (token : String) : IntegerFault → String
  | malformed =>
    "invalid literal for int() with base 10: " ++ .ofList ((Text.quoted token).toList.take 200)
  | tooLong count =>
    "Exceeds the limit (" ++ toString digitLimit ++
      " digits) for integer string conversion: value has " ++ toString count ++
      " digits; use sys.set_int_max_str_digits() to increase the limit"

/-- Whole numbers. -/
def int : Converter :=
  silent "int" fun token =>
    match integer token.toList with
    | .ok n => .ok (.int n)
    | .error e => .error (.foreign "ValueError" (e.message token))

/-! ## Texts -/

/-- Whether a token is not empty. -/
def bool : Converter := silent "bool" fun token => .ok (.bool (token ≠ ""))

/-- The length of a token. -/
def length : Converter := silent "len" fun token => .ok (.int token.length)

/-- A token in upper case. -/
def upper : Converter := silent "str.upper" fun token => .ok (.text (Text.upper token))

/-- The values of the keys of a small dictionary. -/
def key : Converter :=
  silent "key" fun token =>
    match [("on", "1"), ("off", "0"), ("", "empty")].lookup token with
    | some v => .ok (.text v)
    | none => .error (.foreign "KeyError" (Text.quoted token))

/-- No value: an error that carries the words of the token. -/
def fail : Converter :=
  silent "fail" fun token =>
    .error (.ofParts "ValueError" ((Text.words token.toList).map fun w => .ofText (.ofList w)))

/-! ## Names and commands -/

/-- Names that stand for themselves, and can be abbreviated. -/
def lookup (names : List Datum) : Logged Converter := do
  let trie ← Logged.check id (Trie.ofData? (names.map fun n => (n, n)))
  Logged.log (.builtTrie trie.entries.length)
  return silent "Trie.lookup" fun token => (trie.lookup Trie.sharedPayload? token).map .plain

/-- Run a step of reading on the tokens of a line. -/
def reading (label : String) (step : Reading Value) : Converter :=
  { label
    convert := fun token =>
      match step ⟨.ofLine token, []⟩ with
      | .ok v s => (.ok v, s.events)
      | .error e s => (.error e, s.events) }

/-- A command of a type, whose tokens are those of the token. -/
def command (t : CommandType) : Converter := reading "_CommandBase.parse" t.read

/-- A path of a type, whose tokens are those of the token. -/
def path (t : CommandType) : Converter :=
  reading "_CommandBase.parse_path" (Value.path <$> t.readPath)

end CommandSpec.Converter
