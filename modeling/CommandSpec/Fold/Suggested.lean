import CommandSpec.Fold.Fault
import CommandSpec.Suggest

/-!
# Fold/Suggested — what an unknown name may have meant

A folder that suggests compares the token that begins no identifier with the names that there are.
The parts of a fault may be of any kind, and only texts can be compared (`FaultPart.meant`), so such
a folder refuses a fault in which something else stands in their place: `Fault.refusal?` folds a
fault to the reason.  A fault of texts is never refused (`meant_text`).
-/

namespace CommandSpec

/-- The text of a part that is compared with others, letter case apart. -/
def FaultPart.compared : FaultPart → Except Misuse String
  | .datum d => d.textWith "lower"
  | .error kind _ => .error (.noAttribute kind "lower")

/-- **The names that may have been meant**, or the first thing that cannot be compared. -/
def FaultPart.meant (given : FaultPart) (available : List Datum) : Except Misuse (List String) := do
  let given ← given.compared
  let names ← available.mapM (·.textWith "lower")
  return suggestions suggestionThreshold given names

/-- Texts are compared with a text. -/
theorem FaultPart.meant_text (given : String) (names : List String) :
    meant given (names.map .text) = .ok (suggestions suggestionThreshold given names) := by
  have mapM_text : (names.map Datum.text).mapM (·.textWith "lower") = Except.ok names := by
    induction names with
    | nil => rfl
    | cons n ns ih => rw [List.map_cons, List.mapM_cons, ih]; rfl
  rw [meant, mapM_text]
  rfl

/-- The names that a folder suggests, if it suggests any. -/
def suggested (suggest : Bool) (given : FaultPart) (available : List Datum) : List String :=
  if suggest then (given.meant available).toOption.getD [] else []

/-- What a fault holds that cannot be compared, at the place where names are suggested. -/
def refusals : FaultFolder (Option Misuse) where
  noIdMatch given available :=
    match given.meant available with
    | .ok _ => none
    | .error e => some e
  ambiguousId _ _ := none
  incompletePath _ := none
  trailingPath _ := none
  noInput := none
  missingRequired _ _ := none
  badConvert _ _ inner := inner
  trailing _ _ := none
  subcommand _ inner := inner
  other _ := none

/-- Why a folder that suggests refuses a fault. -/
def Fault.refusal? (e : Fault) : Option Misuse := refusals.fold e

/-- A fault that a folder takes, which may suggest or not. -/
def Fault.foldable (e : Fault) (suggest : Bool) : Except Misuse Fault :=
  match e.refusal? with
  | some m => if suggest then .error m else .ok e
  | none => .ok e

end CommandSpec
