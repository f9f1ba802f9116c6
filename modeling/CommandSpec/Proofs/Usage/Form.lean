import CommandSpec.Proofs.Text.Lines
import CommandSpec.Usage.Reader

/-!
# Proofs/Usage/Form — the grammar of a usage line

A **form** is a usage line taken apart: its identifier clause, its required and optional arguments,
its rest argument, and the blanks in front of each and at the end.  `Form.text` spells it, and
`Form.IsAdmissible` says which forms are lines of the grammar, without a word about how a line is
read.
-/

namespace CommandSpec.Usage

open Text

/-- The bracket that opens a required argument, or an optional one. -/
def opening (isRequired : Bool) : Char := if isRequired then '<' else '['

/-- The bracket that closes a required argument, or an optional one. -/
def closing (isRequired : Bool) : Char := if isRequired then '>' else ']'

/-! ## Parts -/

/-- The identifier clause: a bare word, or alternatives between parentheses. -/
inductive ClauseForm where
  | bare (word : List Char)
  | alternatives (pieces : List (List Char))

namespace ClauseForm

/-- The clause as it is spelled. -/
def text : ClauseForm → List Char
  | bare word => word
  | alternatives pieces => '(' :: ['|'].intercalate pieces ++ [')']

/-- The identifiers of the clause. -/
def ids : ClauseForm → List (List Char)
  | bare word => [word]
  | alternatives pieces => pieces.map trim

/-- A bare word does not open with a parenthesis and goes on to a blank, or to the end of the
line.  Alternatives are free of the closing parenthesis and of the bar, and none is blank. -/
def IsAdmissible (after : List Char) : ClauseForm → Prop
  | bare word =>
    word ≠ [] ∧ (∀ c ∈ word, isBlank c = false) ∧ word.head? ≠ some '(' ∧
      ∀ c, after.head? = some c → isBlank c = true
  | alternatives pieces => pieces ≠ [] ∧ ∀ p ∈ pieces, ')' ∉ p ∧ '|' ∉ p ∧ allBlank p = false

instance (after : List Char) : (f : ClauseForm) → Decidable (f.IsAdmissible after)
  | bare word => inferInstanceAs (Decidable (word ≠ [] ∧ (∀ c ∈ word, isBlank c = false) ∧
      word.head? ≠ some '(' ∧ ∀ c ∈ after.head?, isBlank c = true))
  | alternatives pieces => inferInstanceAs
      (Decidable (pieces ≠ [] ∧ ∀ p ∈ pieces, ')' ∉ p ∧ '|' ∉ p ∧ allBlank p = false))

end ClauseForm

/-- A plain argument: the blanks in front of it, and its name. -/
structure ArgumentForm where
  gap : List Char
  name : List Char

namespace ArgumentForm

/-- The argument as it is spelled, between brackets of its kind. -/
def text (isRequired : Bool) (a : ArgumentForm) : List Char :=
  a.gap ++ opening isRequired :: (a.name ++ [closing isRequired])

/-- The name of a plain argument is free of the closing bracket, and is at most two characters long
or has no period among its last three. -/
structure IsAdmissible (isRequired : Bool) (a : ArgumentForm) : Prop where
  blank_gap : allBlank a.gap = true
  closing_not_mem : closing isRequired ∉ a.name
  short_or_no_period : a.name.length ≤ 2 ∨ '.' ∉ a.name.drop (a.name.length - 3)

instance (isRequired : Bool) (a : ArgumentForm) : Decidable (a.IsAdmissible isRequired) :=
  decidable_of_iff (allBlank a.gap = true ∧ closing isRequired ∉ a.name ∧
      (a.name.length ≤ 2 ∨ '.' ∉ a.name.drop (a.name.length - 3)))
    ⟨fun h => ⟨h.1, h.2.1, h.2.2⟩, fun h => ⟨h.1, h.2, h.3⟩⟩

end ArgumentForm

/-- The rest argument: the blanks in front of it, its name, and its kind. -/
structure RestForm where
  gap : List Char
  name : List Char
  isRequired : Bool

namespace RestForm

/-- What marks a rest argument. -/
def ellipsis : List Char := ['.', '.', '.']

/-- The rest argument as it is spelled. -/
def text (r : RestForm) : List Char :=
  r.gap ++ opening r.isRequired :: (r.name ++ ellipsis ++ [closing r.isRequired])

/-- The name of a rest argument is not empty and is free of the closing bracket. -/
structure IsAdmissible (r : RestForm) : Prop where
  blank_gap : allBlank r.gap = true
  closing_not_mem : closing r.isRequired ∉ r.name
  name_ne_nil : r.name ≠ []

instance (r : RestForm) : Decidable r.IsAdmissible :=
  decidable_of_iff (allBlank r.gap = true ∧ closing r.isRequired ∉ r.name ∧ r.name ≠ [])
    ⟨fun h => ⟨h.1, h.2.1, h.2.2⟩, fun h => ⟨h.1, h.2, h.3⟩⟩

/-- The argument that the form declares. -/
def argument (r : RestForm) : RestArgument := ⟨.ofList r.name, r.isRequired⟩

end RestForm

/-! ## Whole lines -/

/-- **A usage line taken apart.** -/
structure Form where
  clause : ClauseForm
  required : List ArgumentForm
  optional : List ArgumentForm
  rest : Option RestForm
  trailing : List Char

namespace Form

/-- What stands after the optional arguments. -/
def afterOptional (f : Form) : List Char := f.rest.elim [] RestForm.text ++ f.trailing

/-- What stands after the required arguments. -/
def afterRequired (f : Form) : List Char :=
  f.optional.flatMap (ArgumentForm.text false) ++ f.afterOptional

/-- What stands after the identifier clause. -/
def afterClause (f : Form) : List Char :=
  f.required.flatMap (ArgumentForm.text true) ++ f.afterRequired

/-- **The line that a form spells.** -/
def text (f : Form) : List Char := f.clause.text ++ f.afterClause

/-- The names of all arguments, in order. -/
def names (f : Form) : List (List Char) :=
  f.required.map (·.name) ++ f.optional.map (·.name) ++ f.rest.toList.map (·.name)

/-- **A form is a line of the grammar** when each of its parts is, and no two of its arguments have
one name. -/
structure IsAdmissible (f : Form) : Prop where
  clause : f.clause.IsAdmissible f.afterClause
  required : ∀ a ∈ f.required, a.IsAdmissible true
  optional : ∀ a ∈ f.optional, a.IsAdmissible false
  rest : ∀ r ∈ f.rest, r.IsAdmissible
  trailing : allBlank f.trailing = true
  nodup_names : f.names.Nodup

instance (f : Form) : Decidable f.IsAdmissible :=
  decidable_of_iff (f.clause.IsAdmissible f.afterClause ∧ (∀ a ∈ f.required, a.IsAdmissible true) ∧
      (∀ a ∈ f.optional, a.IsAdmissible false) ∧ (∀ r ∈ f.rest, r.IsAdmissible) ∧
      allBlank f.trailing = true ∧ f.names.Nodup)
    ⟨fun h => ⟨h.1, h.2.1, h.2.2.1, h.2.2.2.1, h.2.2.2.2.1, h.2.2.2.2.2⟩,
      fun h => ⟨h.1, h.2, h.3, h.4, h.5, h.6⟩⟩

/-- The usage that a form declares, with its short description. -/
def usage (f : Form) (desc : String) : Usage where
  ids := f.clause.ids.map String.ofList
  required := f.required.map fun a => .ofList a.name
  optional := f.optional.map fun a => .ofList a.name
  rest := f.rest.map RestForm.argument
  desc := desc

theorem names_usage (f : Form) (desc : String) :
    (f.usage desc).names = f.names.map String.ofList := by
  rw [names_eq, names]
  cases hr : f.rest <;> simp [usage, hr, RestForm.argument, Function.comp_def]

end Form

end CommandSpec.Usage
