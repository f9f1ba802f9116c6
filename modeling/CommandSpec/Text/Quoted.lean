import CommandSpec.Text.Printable

/-!
# Text/Quoted — a text between quotes, readable on one line

`quoted` writes a text between quotes: single ones, unless only double ones spare an escape.  The
quote itself and the backslash are escaped, line ends and tabs are written `\n`, `\r` and `\t`, and
other characters that cannot be shown by their code points.
-/

namespace CommandSpec.Text

/-- The digits of `n` in base sixteen, the last `width` of them. -/
def hexDigits : (width n : Nat) → List Char
  | 0, _ => []
  | width + 1, n => hexDigits width (n / 16) ++ [Nat.digitChar (n % 16)]

/-- The shortest of the three numeric escapes that holds the code point. -/
def numericEscape (n : Nat) : List Char :=
  if n < 0x100 then '\\' :: 'x' :: hexDigits 2 n
  else if n < 0x10000 then '\\' :: 'u' :: hexDigits 4 n
  else '\\' :: 'U' :: hexDigits 8 n

/-- One character between quotes of the kind `q`. -/
def quoteChar (q c : Char) : List Char :=
  if c = q || c = '\\' then ['\\', c]
  else if c = '\n' then ['\\', 'n']
  else if c = '\r' then ['\\', 'r']
  else if c = '\t' then ['\\', 't']
  else if isPrintable c then [c]
  else numericEscape c.toNat

/-- Double quotes are used for a text that has a single quote and no double one. -/
def quoteFor (s : List Char) : Char :=
  if s.contains '\'' && !s.contains '"' then '"' else '\''

/-- A text between quotes. -/
def quotedChars (s : List Char) : List Char :=
  let q := quoteFor s
  q :: s.flatMap (quoteChar q) ++ [q]

/-- A text between quotes. -/
def quoted (s : String) : String := .ofList (quotedChars s.toList)

/-- Quoted texts in brackets, set off by commas. -/
def quotedList (xs : List String) : String := "[" ++ ", ".intercalate (xs.map quoted) ++ "]"

end CommandSpec.Text
