import CommandSpec.Text.CaseTable

/-!
# Text/Case — the lower and the upper case of a text

Case is mapped in full: one letter may become several (`ß` is `SS` in upper case), and a capital
sigma is lowered to its final form at the end of a word.  Names are compared after `lower`, so
two spellings name the same thing when they differ in case alone.
-/

namespace CommandSpec.Text

/-- The code point to which the runs of a table move `n`, or `n` itself. -/
def shiftCase (runs : List CaseRun) (n : Nat) : Nat :=
  match runs.find? (·.covers n) with
  | some r => (Int.ofNat n + r.offset).toNat
  | none => n

/-- The lower case of one character by itself. -/
def lowerChar (c : Char) : List Char :=
  if c.toNat < 0x80 then [c.toLower]
  else if c = 'İ' then ['i', '\u0307']
  else [Char.ofNat (shiftCase lowerRuns c.toNat)]

/-- The upper case of one character. -/
def upperChar (c : Char) : List Char :=
  if c.toNat < 0x80 then [c.toUpper]
  else match upperExpansions.lookup c.toNat with
    | some ns => ns.map Char.ofNat
    | none => [Char.ofNat (shiftCase upperRuns c.toNat)]

/-- Cased letters. -/
def isCased (c : Char) : Bool :=
  if c.toNat < 0x80 then c.isAlpha else inRanges casedRanges c

/-- Marks and signs that are looked through inside a word. -/
def isCaseIgnorable (c : Char) : Bool := inRanges caseIgnorableRanges c

/-- Whether the first character that is not looked through is a cased letter. -/
def nextIsCased (s : List Char) : Bool :=
  match s.dropWhile isCaseIgnorable with
  | [] => false
  | c :: _ => isCased c

/-- The lower case of a text whose `before` (nearest first) has been lowered: a capital sigma is
final when a letter stands before it in its word and none after. -/
def lowerFrom (before : List Char) : List Char → List Char
  | [] => []
  | c :: cs =>
    (if c = 'Σ' then [if nextIsCased before && !nextIsCased cs then 'ς' else 'σ']
      else lowerChar c) ++ lowerFrom (c :: before) cs

/-- The lower case of a text. -/
def lowerChars (s : List Char) : List Char := lowerFrom [] s

/-- The lower case of a text. -/
def lower (s : String) : String := .ofList (lowerChars s.toList)

/-- The upper case of a text. -/
def upper (s : String) : String := .ofList (s.toList.flatMap upperChar)

/-- A title in words: a capital after the first character opens a word, which `gap` sets off, and
all is lowered. -/
def spaced (gap : Char) (s : String) : String :=
  match s.toList with
  | [] => ""
  | c :: cs =>
    lower <| .ofList <| c :: cs.flatMap fun d =>
      if 'A' ≤ d && d ≤ 'Z' then [gap, d] else [d]

end CommandSpec.Text
