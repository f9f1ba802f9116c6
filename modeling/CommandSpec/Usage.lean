/-!
# Usage — what a command is called and which arguments it takes

A usage is what one line such as `(push|p) <branch> [--force] [flags...]` declares: the identifiers
of the command, its required arguments, its optional ones, and at most one **rest** argument, which
takes every token that is left.  `Usage/Reader` reads the line, `Usage/Printer` writes it.
-/

namespace CommandSpec

/-- The argument that takes every remaining token. -/
structure RestArgument where
  name : String
  required : Bool
  deriving DecidableEq, Repr

/-- One argument of a usage. -/
structure ArgumentUsage where
  name : String
  isRequired : Bool
  isRest : Bool
  deriving DecidableEq, Repr

/-- A usage and its short description.  The first identifier is canonical, the others
are aliases. -/
structure Usage where
  ids : List String
  required : List String
  optional : List String
  rest : Option RestArgument
  desc : String
  deriving DecidableEq, Repr

namespace Usage

/-- The canonical identifier. -/
def canonical (u : Usage) : String := u.ids.headD ""

/-- The declared arguments, in order. -/
def arguments (u : Usage) : List ArgumentUsage :=
  u.required.map (⟨·, true, false⟩) ++ u.optional.map (⟨·, false, false⟩) ++
    u.rest.toList.map fun r => ⟨r.name, r.required, true⟩

/-- The names of the arguments, in order. -/
def names (u : Usage) : List String := u.arguments.map (·.name)

/-- How many arguments there are; the rest argument counts as one. -/
def arity (u : Usage) : Nat :=
  u.required.length + u.optional.length + if u.rest.isSome then 1 else 0

theorem names_eq (u : Usage) :
    u.names = u.required ++ u.optional ++ u.rest.toList.map (·.name) := by
  simp [names, arguments, Function.comp_def]

theorem length_arguments (u : Usage) : u.arguments.length = u.arity := by
  cases h : u.rest <;> simp [arguments, arity, h, Nat.add_assoc]

end Usage

end CommandSpec
