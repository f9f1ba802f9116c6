import CommandSpec.Session.Attribute

/-!
# Session/Answer — how values are shown and answered with

An answer shows a value with everything that can be told of it.  Making one asks the value for its
fields and has it shown, which fails where something else stands in the place of what it does, and
where a cell of an id or of a path has been changed for the worse.
-/

namespace CommandSpec

/-- What is answered for a value. -/
inductive Answer where
  | plain (d : Datum)
  /-- The items of a row, and the name of its kind. -/
  | row (kind? : Option String) (items : List Answer)
  | id (names : List Datum)
  | path (names : List String)
  | command (type : String) (name : Value) (fields : List (String × Answer)) (shown : String)
  /-- A token that has not been looked at. -/
  | unset

namespace Session

/-! ## How things are shown -/

/-- The error that a result is. -/
def errorOf? {ε α : Type} : Except ε α → Option ε
  | .error e => some e
  | .ok _ => none

/-- The names along a path. -/
def namesAlong (s : Session) (p : CommandPath) : Except Misuse (List String) :=
  p.ids.mapM s.nameOf

/-- How a step of a route is written: an id by its name, a text as it is, and anything else as
`other` says. -/
def stepShownBy (s : Session) (other : Value → Except Misuse String) (step : Value) :
    Except Misuse String :=
  match step with
  | .id i => s.nameOf i
  | .plain d => .ok d.plain
  | v =>
    match s.behaviourFault? v ["__str__"] with
    | some e => .error e
    | none => other v

/-- The names along a kept path; what is no id and no datum goes by its kind. -/
def keptNames? (s : Session) (v : Value) : Option (Except Misuse (List String)) :=
  (s.route? v).map fun r =>
    r.steps.mapM (· >>= s.stepShownBy fun w => .ok (Value.shownThing w.kindName))

mutual

/-- Why a value cannot be shown. -/
def shownFault? (s : Session) : Value → Option Misuse
  | .plain _ => none
  | .thing kind serial => (s.keptNames? (.thing kind serial)).bind errorOf?
  | .row _ items => shownFaults? s items
  | .id i => errorOf? (s.heldName i)
  | .path p => errorOf? (s.namesAlong p)
  | .blank _ => some (.noTypeAttribute Value.rootName "__fields__")
  | .command i fields =>
    (s.behaviourFault? (.command i fields) ["__getattribute__"]).or
      ((shownFieldFaults? s fields).or
        (s.behaviourFault? (.command i fields) ["__repr__", "__rich_repr__"]))

/-- Why one of some values cannot be shown. -/
def shownFaults? (s : Session) : List Value → Option Misuse
  | [] => none
  | v :: vs => (shownFault? s v).or (shownFaults? s vs)

/-- Why one of some fields cannot be shown. -/
def shownFieldFaults? (s : Session) : List (String × Value) → Option Misuse
  | [] => none
  | (_, v) :: fs => (shownFault? s v).or (shownFieldFaults? s fs)

end

/-- How an id is shown, as its cells have it now. -/
def shownId (s : Session) (i : CommandId) : String :=
  match s.heldName i with
  | .ok name => CommandId.shownBy name.shown
  | .error _ => i.shown

/-- How something is shown that is known by a serial number: a path by the names along it. -/
def shownThing (s : Session) (kind : String) (serial : Nat) : String :=
  match s.keptNames? (.thing kind serial) with
  | some (.ok names) => CommandPath.shownOf names
  | _ => Value.shownThing kind

/-- How a value is shown. -/
def shown (s : Session) (v : Value) : Except Misuse String :=
  match s.shownFault? v with
  | some e => .error e
  | none => .ok (v.shownWith { id := s.shownId, thing := s.shownThing })

/-- How a step of a route is written: an id by its name, a text as it is, and a value as it is
shown. -/
def stepShown (s : Session) (step : Value) : Except Misuse String := s.stepShownBy s.shown step

/-- The steps of a route as they are written. -/
def routeNames (s : Session) (r : Route) : Except Misuse (List String) :=
  r.steps.mapM (· >>= s.stepShown)

/-! ## Answers -/

/-- The kind of a record within a datum, of which there is no answer. -/
def unspokenIn? : Datum → Option String
  | .list items => unspokenAmong? items
  | .record fields => some (Datum.record fields).kindName
  | _ => none
where
  /-- The kind of a record within some data. -/
  unspokenAmong? : List Datum → Option String
    | [] => none
    | d :: ds => (unspokenIn? d).or (unspokenAmong? ds)

/-- The data that the names of an id are. -/
def namesData : Value → Except Misuse (List Datum)
  | .plain d => d.items
  | .row _ names => .ok (names.filterMap fun
    | .plain d => some d
    | _ => none)
  | v => .error (.notIterable v.kindName)

/-- A result that may be a misuse. -/
def spoken {α : Type} (r : Except Misuse α) : Except StepFault α :=
  r.mapError fun e => .fault e.fault

mutual

/-- **The answer for a value.** -/
def answer (s : Session) : Value → Except StepFault Answer
  | .plain d =>
    match unspokenIn? d with
    | some kind => .error (.unspoken kind)
    | none => .ok (.plain d)
  | .row k? items => (answers s items).map (.row (k?.map (·.name)))
  | .id i => spoken (s.heldNames i >>= namesData) |>.map .id
  | .path p => spoken (s.namesAlong p) |>.map .path
  | .blank serial => spoken (s.shown (.blank serial)) |>.map (.plain ∘ .text)
  | .thing kind serial =>
    match s.route? (.thing kind serial) with
    | some r => spoken (s.routeNames r) |>.map .path
    | none => if kind = "UnsetType" then .ok .unset else .error (.unspoken kind)
  | .command i fields => do
    if let some e := s.behaviourFault? (.command i fields) ["__getattribute__"] then
      throw (.fault e.fault)
    let told ← fieldAnswers s fields
    let name ← spoken (s.heldName i)
    return .command i.owner.qualified name told (← spoken (s.shown (.command i fields)))

/-- The answers for some values. -/
def answers (s : Session) : List Value → Except StepFault (List Answer)
  | [] => .ok []
  | v :: vs => do return (← answer s v) :: (← answers s vs)

/-- The answers for some fields. -/
def fieldAnswers (s : Session) :
    List (String × Value) → Except StepFault (List (String × Answer))
  | [] => .ok []
  | (name, v) :: fs => do return (name, ← answer s v) :: (← fieldAnswers s fs)

end

end Session

namespace Step

/-- The answer for a value. -/
def answer (v : Value) : Step Answer := do
  match (← get).answer v with
  | .ok a => return a
  | .error e => throw e

end Step

end CommandSpec
