import CommandSpec.Misuse

/-!
# Naming — giving a function a name

A function that is made at run time has no telling name.  `rename` gives it one at once, or returns
a decorator that gives the name to whatever it is applied to; built-in functions keep their names.
-/

namespace CommandSpec.Naming

/-- What may be handed over to be named, or as a name. -/
inductive Subject where
  | function
  | builtin
  | datum (d : Datum)

/-- The names of a function: its own, and the qualified one. -/
structure Names where
  short : String
  qualified : String
  deriving DecidableEq, Repr

/-- What naming results in. -/
inductive Outcome where
  | named (names : Names)
  /-- A decorator that will give a name. -/
  | decorator (name : String)

/-- Give a name to a subject that can be called. -/
def nameFunction (name : String) : Subject → Except Misuse Names
  | .function => .ok ⟨name, name⟩
  | .builtin => .error .notRenamable
  | .datum _ => .error .subjectNotCallable

/-- **Name a function**, or make a decorator. -/
def rename : List Subject → Except Misuse Outcome
  | [.datum _, _] => .error .subjectNotCallable
  | [subject, .datum (.text name)] => .named <$> nameFunction name subject
  | [_, _] => .error .nameNotText
  | [.datum (.text name)] => .ok (.decorator name)
  | [_] => .error .decoratorNameNotText
  | subjects => .error (.renameCount subjects.length)

/-- Apply a decorator. -/
def decorate (name : String) : Subject → Except Misuse Names
  | .datum _ => .error .decoratedNotCallable
  | subject => nameFunction name subject

/-- The names of the outcome itself; every decorator goes by the same one. -/
def Outcome.names : Outcome → Names
  | named n => n
  | decorator _ => ⟨"rename", "rename"⟩

end CommandSpec.Naming
