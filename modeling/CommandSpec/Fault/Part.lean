import CommandSpec.Datum

/-!
# Fault/Part — the parts of errors

An error from elsewhere is made of parts: data, or other errors.  Its message shows nothing for no
part, a single part as it is, and several parts in parentheses.  A fault **keeps** its parts as what
they are; where a fault arises from what was read, each of them is a text.
-/

namespace CommandSpec

/-- A part of an error: as it stands alone, and as it is shown among others. -/
structure ErrorPart where
  plain : String
  shown : String
  deriving DecidableEq, Repr, Inhabited

namespace ErrorPart

/-- A datum as a part. -/
def ofDatum (d : Datum) : ErrorPart := ⟨d.plain, d.shown⟩

/-- A text as a part. -/
def ofText (s : String) : ErrorPart := ofDatum (.text s)

/-- Parts between parentheses, where a single one keeps no comma. -/
def inParentheses (parts : List ErrorPart) : String :=
  "(" ++ ", ".intercalate (parts.map shown) ++ ")"

/-- The message of an error of a kind; a missing key is always shown as among others. -/
def message (kind : String) : List ErrorPart → String
  | [] => ""
  | [p] => if kind = "KeyError" then p.shown else p.plain
  | ps => inParentheses ps

/-- An error as a part of another. -/
def ofError (kind : String) (parts : List ErrorPart) : ErrorPart :=
  ⟨message kind parts, kind ++ inParentheses parts⟩

end ErrorPart

/-- A part that a fault keeps: a datum, or an error with its kind. -/
inductive FaultPart where
  | datum (d : Datum)
  | error (kind : String) (part : ErrorPart)
  deriving Repr, Inhabited

namespace FaultPart

/-- A text is a part that can be kept. -/
instance : Coe String FaultPart := ⟨fun s => datum (.text s)⟩

/-- A kept part as a part of a message. -/
def part : FaultPart → ErrorPart
  | datum d => .ofDatum d
  | error _ part => part

/-- A kept part as it stands alone. -/
def plain (p : FaultPart) : String := p.part.plain

/-- A kept part as it is shown among others. -/
def shown (p : FaultPart) : String := p.part.shown

/-- A text stands for itself. -/
@[simp] theorem plain_text (s : String) : plain (s : FaultPart) = s := rfl

/-- A text is shown between quotes. -/
@[simp] theorem shown_text (s : String) : shown (s : FaultPart) = Text.quoted s := by
  simp [shown, part, ErrorPart.ofDatum, Datum.shown]

end FaultPart

end CommandSpec
