import CommandSpec.Repeat
import CommandSpec.Text.Blank
import CommandSpec.Text.Lines
import CommandSpec.Text.Quoted
import CommandSpec.Text.Relaxed
import CommandSpec.Usage

/-!
# Usage/Reader — reading a usage line and a usage paragraph

A line is read from left to right: the identifier clause, the required arguments `<name>`, the
optional ones `[name]`, the rest argument `<name...>` or `[name...]`, and then nothing but blanks.
Blanks may stand before each part.  A name of three characters or more has no period among its last
three, so that an ellipsis marks a rest argument and nothing else.

Each scan returns what follows the part it has read, with a proof where a loop needs one that this
is shorter.
-/

namespace CommandSpec

/-- Why a line is no usage. -/
inductive UsageFault where
  /-- The line opens with no identifier clause. -/
  | noIdentifier
  /-- One of the alternatives of the clause is blank. -/
  | emptyAlias (clause : String)
  /-- Something follows the last argument. -/
  | trailing (text : String)
  /-- Two arguments have one name. -/
  | repeatedArgument (name command : String)
  deriving DecidableEq, Repr

/-- What is reported of a line that is no usage. -/
def UsageFault.message : UsageFault → String
  | noIdentifier => "invalid command ID specifier, expected e.g. 'foo' or '(foo|bar)'"
  | emptyAlias clause => "invalid command ID specifier " ++ Text.quoted clause ++ ", empty alias"
  | trailing text => "trailing string " ++ Text.quoted text
  | repeatedArgument name command =>
    "argument " ++ Text.quoted name ++ " of " ++ Text.quoted command ++
      " is declared more than once"

namespace Usage

open Text

/-! ## Scanning -/

/-- What stands before the first occurrence of a character, and what stands after it. -/
def cutAt (stop : Char) : List Char → Option (List Char × List Char)
  | [] => none
  | c :: cs => if c = stop then some ([], cs) else (cutAt stop cs).map fun r => (c :: r.1, r.2)

theorem cutAt_eq_some {stop : Char} :
    ∀ {s before after : List Char}, cutAt stop s = some (before, after) →
      s = before ++ stop :: after ∧ stop ∉ before
  | [], _, _, h => by simp [cutAt] at h
  | c :: cs, before, after, h => by
    rw [cutAt] at h
    split at h
    · next hc =>
      obtain ⟨rfl, rfl⟩ := by simpa using h
      simp [hc]
    · next hc =>
      obtain ⟨⟨b, a⟩, hr, hba⟩ := Option.map_eq_some_iff.1 h
      obtain ⟨rfl, rfl⟩ := by simpa using hba
      obtain ⟨rfl, hb⟩ := cutAt_eq_some hr
      exact ⟨rfl, by simp [Ne.symm hc, hb]⟩

/-- A maximal run without blanks, and what follows it. -/
def takeWord (s : List Char) : List Char × List Char := s.span (!isBlank ·)

/-- What an identifier clause holds, and how it is spelled. -/
structure Clause where
  ids : List (List Char)
  spelling : List Char

/-- A clause that is one identifier. -/
def bareClause (id : List Char) : Clause := ⟨[id], trim id⟩

/-- The clause of a line in which an opening parenthesis is never closed, or in which nothing but
blanks stands: the last blank in front then counts as the first character of a bare identifier. -/
def blankClause? (line : List Char) : Option (Clause × List Char) :=
  (line.takeWhile isBlank).getLast?.map fun b =>
    let word := takeWord (trimLeft line)
    (bareClause (b :: word.1), word.2)

/-- The identifier clause: a word that opens with no parenthesis, or alternatives in parentheses. -/
def readClause? (line : List Char) : Option (Clause × List Char) :=
  match trimLeft line with
  | [] => blankClause? line
  | '(' :: body =>
    match cutAt ')' body with
    | none => blankClause? line
    | some (inside, rest) =>
      some (⟨(splitAt '|' inside).map trim, '(' :: inside ++ [')']⟩, rest)
  | c :: cs =>
    let word := takeWord (c :: cs)
    some (bareClause word.1, word.2)

/-- Whether the name of a plain argument is admissible. -/
def isPlainName (name : List Char) : Bool :=
  name.length ≤ 2 || !(name.drop (name.length - 3)).contains '.'

/-- A plain argument between its brackets. -/
def readArgument? (opening closing : Char) (line : List Char) : Option (List Char × List Char) :=
  match trimLeft line with
  | [] => none
  | c :: cs =>
    if c = opening then
      match cutAt closing cs with
      | some (name, rest) => if isPlainName name then some (name, rest) else none
      | none => none
    else none

/-- **A plain argument is spelled as its name between brackets**, after blanks. -/
theorem readArgument?_eq_some {opening closing : Char} {line name rest : List Char}
    (h : readArgument? opening closing line = some (name, rest)) :
    trimLeft line = opening :: name ++ closing :: rest := by
  unfold readArgument? at h
  split at h
  · simp at h
  · next c cs hl =>
    split at h
    · next hc =>
      split at h
      · next n r hcut =>
        split at h
        · obtain ⟨rfl, rfl⟩ := by simpa using h
          rw [hl, hc, (cutAt_eq_some hcut).1]
          rfl
        · simp at h
      · simp at h
    · simp at h

theorem length_of_readArgument? {opening closing : Char} {line name rest : List Char}
    (h : readArgument? opening closing line = some (name, rest)) : rest.length < line.length := by
  have h₁ := congrArg List.length (readArgument?_eq_some h)
  have h₂ := length_trimLeft_le line
  simp at h₁
  omega

/-- As many plain arguments as there are, and what follows them. -/
def readArguments (opening closing : Char) (line : List Char) : List (List Char) × List Char :=
  match h : readArgument? opening closing line with
  | none => ([], line)
  | some (name, rest) =>
    have : rest.length < line.length := length_of_readArgument? h
    let more := readArguments opening closing rest
    (name :: more.1, more.2)
termination_by line.length

/-- What stands before a final ellipsis, if anything does. -/
def dropEllipsis? (s : List Char) : Option (List Char) :=
  if 3 < s.length && s.drop (s.length - 3) = ['.', '.', '.'] then some (s.take (s.length - 3))
  else none

/-- The rest argument that closes with the given bracket, after its opening one. -/
def restBefore? (closing : Char) (required : Bool) (s : List Char) :
    Option (RestArgument × List Char) :=
  match cutAt closing s with
  | some (inside, rest) => (dropEllipsis? inside).map fun name => (⟨.ofList name, required⟩, rest)
  | none => none

/-- The rest argument, if there is one, and what follows it. -/
def readRest (line : List Char) : Option RestArgument × List Char :=
  let found := match trimLeft line with
    | '<' :: cs => restBefore? '>' true cs
    | '[' :: cs => restBefore? ']' false cs
    | _ => none
  match found with
  | some (rest, after) => (some rest, after)
  | none => (none, line)

/-! ## Reading -/

/-- **A usage line**, with the short description to attach. -/
def ofLine? (line desc : String) : Except UsageFault Usage := do
  let some (clause, afterIds) := readClause? line.toList | throw .noIdentifier
  if clause.ids.any allBlank then throw (.emptyAlias (.ofList clause.spelling))
  let required := readArguments '<' '>' afterIds
  let optional := readArguments '[' ']' required.2
  let rest := readRest optional.2
  unless allBlank rest.2 do throw (.trailing (.ofList (trim rest.2)))
  let usage : Usage := {
    ids := clause.ids.map String.ofList
    required := required.1.map String.ofList
    optional := optional.1.map String.ofList
    rest := rest.1
    desc }
  match firstRepeat? usage.names with
  | some name => throw (.repeatedArgument name usage.canonical)
  | none => return usage

/-- A usage paragraph in two parts: the line, and the text it is described by.  The line stands
between backquotes, perhaps with a colon after it, or else is the first line of the paragraph. -/
def splitParagraph (s : List Char) : List Char × List Char :=
  let plain :=
    match splitAt '\n' (trim s) with
    | line :: more => (line, unlines more)
    | [] => ([], [])
  match trimLeft s with
  | '\x60' :: cs =>
    match cutAt '\x60' cs with
    | some (line, rest) =>
      match trimLeft rest with
      | ':' :: text => (line, text)
      | text => (line, text)
    | none => plain
  | _ => plain

/-- **A usage paragraph.**  The description is brought onto one line. -/
def ofParagraph? (paragraph : String) : Except UsageFault Usage :=
  let parts := splitParagraph paragraph.toList
  ofLine? (.ofList parts.1) (.ofList (relaxedChars parts.2))

end Usage

end CommandSpec
