import CommandSpec.Session.Answer

/-!
# Session/Compare — when values are equal, and what is a value of a type

Values are compared by what they hold, paths along their steps, and everything else by identity.  A
value belongs to a type if it is a command of it; a constant that stands in the place of a type's
commands is then asked for the value's own type.
-/

namespace CommandSpec.Session

/-- Why two commands cannot be compared: equality reads the fields of two commands of one type. -/
def readFault? (s : Session) (v w : Value) : Option Misuse :=
  match v, w with
  | .command i (_ :: _), .command j _ => if i = j then s.typeFault? v else none
  | _, _ => none

/-- Whether two items of rows are told to be the same without a look at what they hold. -/
def isIdentical : Value → Value → Bool
  | .plain d, .plain e => d.same e
  | .thing k m, .thing l n => k = l && m = n
  | _, _ => false

mutual

/-- Whether two values are equal: rows item by item, commands field by field, and paths along their
steps. -/
def equal (s : Session) : Value → Value → Except Misuse Bool
  | .row _ xs, .row _ ys => itemsEqual s xs ys
  | .command i fs, .command j gs =>
    match s.readFault? (.command i fs) (.command j gs) with
    | some e => .error e
    | none => if i = j then fieldsEqual s fs gs else .ok false
  | v, w =>
    match s.route? v, s.route? w with
    | some a, some b => a.same b
    | _, _ => .ok (v.equal w)

/-- Whether two rows are equal item by item. -/
def itemsEqual (s : Session) : List Value → List Value → Except Misuse Bool
  | [], [] => .ok true
  | v :: vs, w :: ws => do
    if isIdentical v w || (← equal s v w) then itemsEqual s vs ws else return false
  | _, _ => .ok false

/-- Whether two commands of one type are equal field by field. -/
def fieldsEqual (s : Session) :
    List (String × Value) → List (String × Value) → Except Misuse Bool
  | [], [] => .ok true
  | (_, v) :: fs, (_, w) :: gs => do
    if ← equal s v w then fieldsEqual s fs gs else return false
  | _, _ => .ok false

end

mutual

/-- Why a value has no hash. -/
def hashFault? (s : Session) : Value → Option Misuse
  | .row _ items => hashFaults? s items
  | .command _ fields => hashFieldFaults? s fields
  | v =>
    match s.route? v with
    | some r => errorOf? r.values
    | none => v.hashFault?

/-- Why one of some values has no hash. -/
def hashFaults? (s : Session) : List Value → Option Misuse
  | [] => none
  | v :: vs => (hashFault? s v).or (hashFaults? s vs)

/-- Why one of some fields has no hash. -/
def hashFieldFaults? (s : Session) : List (String × Value) → Option Misuse
  | [] => none
  | (_, v) :: fs => (hashFault? s v).or (hashFieldFaults? s fs)

end

/-- Whether two values are equal.  Both are asked whether they differ, too, and only equal values
are asked for their hash, which they must have. -/
def compare (s : Session) (v w : Value) : Except Misuse Bool := do
  let eq ← s.equal v w
  let hashes := if eq then (s.hashFault? v).or (s.hashFault? w) else none
  match ((s.behaviourFault? v ["__ne__"]).or (s.behaviourFault? w ["__ne__"])).or hashes with
  | some e => throw e
  | none => return eq

/-! ## Values of a type -/

/-- The name under which a type holds its commands. -/
def commandsName : String := "__commands__"

/-- The kind of the type of a value. -/
def kindOfType (s : Session) (v : Value) : String :=
  match v with
  | .command _ _ | .blank _ => CommandType.valueKind
  | v => if (s.stream? v).isSome then "ABCMeta" else "type"

/-- Whether a value is of exactly the given type. -/
def isExactly (t : CommandType) (v : Value) : Bool :=
  match t, v with
  | .single c, .command id _ => c.id.serial = id.serial
  | .root .command, .blank _ => true
  | _, _ => false

/-- **Whether a value is one of a type's commands.** -/
def isInstance (s : Session) (t : CommandType) (v : Value) : Except Misuse Bool :=
  let other : Except Misuse Bool := (s.typeFault? v).elim (.ok false) .error
  match t with
  | .single c =>
    if isExactly t v then .ok true
    else if c.attributes.contains commandsName then .error (.notAContainer "member_descriptor")
    else match t.instead? commandsName with
      | some (.constant (.text _)) => .error (.notWithinText (s.kindOfType v))
      | some (.constant (.list _)) | some (.constant (.record _)) => .ok false
      | some (.constant .null) | none => other
      | some shared => .error (.notAContainer shared.kindName)
  | .root .family => other
  | t => .ok (t.hasInstance v)

end CommandSpec.Session
