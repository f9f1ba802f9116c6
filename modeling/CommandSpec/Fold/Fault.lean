import CommandSpec.Fault

/-!
# Fold/Fault — taking faults apart

A **fault folder** has one leaf for each variant of a fault.  `fold` hands the parts of a fault to
its leaf: a wrapped fault is folded first and passed on as what it became, except that an identifier
which cannot be resolved is folded in place of the fault that wraps it, unless the folder has a leaf
of its own for that.  What is no fault of reading goes to `other`.
-/

namespace CommandSpec

/-- What to make of each variant of a fault. -/
structure FaultFolder (α : Type) where
  noIdMatch (given : FaultPart) (available : List Datum) : α
  ambiguousId (candidates : List String) (given : FaultPart) : α
  incompletePath (available : List String) : α
  /-- A leaf for the id of a path in place of the fold of the fault it wraps. -/
  badPathId? : Option (Fault → α) := none
  trailingPath (extra : FaultPart) : α
  noInput : α
  /-- A leaf for the id of a command in place of the fold of the fault it wraps. -/
  badId? : Option (Fault → α) := none
  missingRequired (cmd arg : FaultPart) : α
  badConvert (cmd arg : FaultPart) (inner : α) : α
  trailing (cmd extra : FaultPart) : α
  subcommand (cmd : FaultPart) (inner : α) : α
  other (e : Fault) : α

namespace FaultFolder

variable {α : Type}

/-- Fold a fault of an identifier; any other goes to `other`. -/
def foldId (f : FaultFolder α) : Fault → α
  | .noMatch given available => f.noIdMatch given available
  | .ambiguousId candidates given => f.ambiguousId candidates given
  | e => f.other e

/-- **Fold a fault.** -/
def fold (f : FaultFolder α) : Fault → α
  | .noMatch given available => f.noIdMatch given available
  | .ambiguousId candidates given => f.ambiguousId candidates given
  | .incompletePath available => f.incompletePath available
  | .badPathId inner => f.badPathId?.getD f.foldId inner
  | .trailingPath extra => f.trailingPath extra
  | .noInput => f.noInput
  | .badId inner => f.badId?.getD f.foldId inner
  | .missingRequired cmd arg => f.missingRequired cmd arg
  | .badConvert cmd arg inner => f.badConvert cmd arg (f.fold inner)
  | .trailingArgument cmd extra => f.trailing cmd extra
  | .subcommand cmd inner =>
    f.subcommand cmd (if inner.isCommandFault then f.fold inner else f.other inner)
  | e => f.other e

end FaultFolder

/-- The message of a fault, or its kind if there is none. -/
def Fault.notice (e : Fault) : String := if e.message = "" then e.kind else e.message

end CommandSpec
