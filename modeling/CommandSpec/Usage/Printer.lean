import CommandSpec.Misuse
import CommandSpec.Text.Blank
import CommandSpec.Usage

/-!
# Usage/Printer — writing a usage line

The canonical spelling of a usage: its identifiers, in parentheses unless there is a single one that
needs none, and each argument between the brackets of its kind, a space before each.
-/

namespace CommandSpec

/-- An argument between its brackets, with an ellipsis when it takes all remaining tokens. -/
def ArgumentUsage.spelling (name : String) (isRequired isRest : Bool) : String :=
  (if isRequired then "<" else "[") ++ name ++ (if isRest then "..." else "") ++
    if isRequired then ">" else "]"

/-- Identifiers as one clause. -/
def Usage.clause : List String → String
  | [id] => if id = "" || id.toList.any Text.isBlank then "(" ++ id ++ ")" else id
  | ids => "(" ++ "|".intercalate ids ++ ")"

/-- Identifiers that are data of any kind as one clause: a single one that needs no parentheses is
the clause itself, whatever it is. -/
def Usage.clauseOf (ids : Datum) : Except Misuse Datum := do
  let ids ← match ids.items with
    | .ok ids => pure ids
    | .error _ => throw (.noLength ids.kindName)
  let joined : Except Misuse Datum :=
    (Datum.joinable ids).map fun ids => .text ("(" ++ "|".intercalate ids ++ ")")
  match ids with
  | [id] =>
    if !id.truthy then joined
    else
      let parts ← (← id.items).mapM (·.textWith "isspace")
      if parts.any fun part => part ≠ "" && part.toList.all Text.isBlank then joined else return id
  | _ => joined

/-- A usage as one line. -/
def Usage.line (u : Usage) : String :=
  " ".intercalate
    (Usage.clause u.ids :: u.arguments.map fun a =>
      ArgumentUsage.spelling a.name a.isRequired a.isRest)

end CommandSpec
