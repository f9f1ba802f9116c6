import CommandSpec.Session.Basic

/-!
# Session/Operand — how a step names the values that it works on

A step names values by what they are, by a variable, or by the type whose id they are.
-/

namespace CommandSpec

/-- How a step names a value. -/
inductive Operand where
  | plain (d : Datum)
  | tuple (items : List Operand)
  | variable (name : String)
  /-- The id of a type. -/
  | idOf (type : String)
  deriving Inhabited

namespace Step

/-- The id of a named type.  A type that is no declared command has none, but may hold something
else under that name. -/
def idOf (name : String) : Step Value := do
  match ← typeNamed name with
  | .single c => return .id c.id
  | t =>
    match t.instead? "id" with
    | some shared => return shared.value
    | none => raise (t.noAttr "id")

mutual

/-- **The value that an operand names.** -/
def operand : Operand → Step Value
  | .plain d => pure (.plain d)
  | .tuple items => .tuple <$> operands items
  | .variable name => held name
  | .idOf type => idOf type

/-- The values that some operands name. -/
def operands : List Operand → Step (List Value)
  | [] => pure []
  | o :: os => do
    let v ← operand o
    return v :: (← operands os)

end

end Step

end CommandSpec
