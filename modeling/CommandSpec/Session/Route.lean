import CommandSpec.Session.Slot
import CommandSpec.Value

/-!
# Session/Route — paths whose cells can be changed

A path is made of ids, each with the path that follows it.  But whatever has a command can stand in
the place of an id, and both cells of each step can be changed.  A session keeps the cells of each
step (`PathCells`), so that everyone who has a path has the same one.  A **route** is what such
cells make up: it goes on as far as it can be followed.  A path is the route that it makes
(`path?_ofPath`).
-/

namespace CommandSpec

/-- The cells of one step of a path: its id, and the serial number of the path that follows it. -/
structure PathCells where
  id : Slot Value
  rest : Slot (Option Nat)

/-- A path whose cells can be changed; an id that is missing is `none`. -/
inductive Route where
  /-- The last step. -/
  | last (id : Option Value)
  | more (id : Option Value) (rest : Route)
  /-- A step that is followed by a datum which is no path, or by nothing. -/
  | broken (id : Option Value) (rest : Option Datum)

namespace Route

/-- The name of the kind of paths. -/
def kindName : String := "CommandPath"

/-- The name of the cell of an id. -/
def idName : String := "_id"

/-- The name of the cell of what follows. -/
def restName : String := "_rest"

/-- The error of asking for a cell that is empty. -/
def missing (cell : String) : Misuse := .noAttribute kindName cell

/-- The id of the first step. -/
def id? : Route → Option Value
  | last id | more id _ | broken id _ => id

/-- The route that the cells of a path make up, given the routes of the paths that follow. -/
def ofCells (follow : Nat → Option Route) (c : PathCells) : Option Route :=
  let id : Option Value := c.id.fold some (some ∘ .plain) none
  c.rest.fold
    (fun
      | none => some (last id)
      | some serial => (follow serial).map (more id))
    (fun
      | .null => some (last id)
      | d => some (broken id (some d)))
    (some (broken id none))

/-- The id of the first step, or the error of asking for it. -/
def head (r : Route) : Except Misuse Value :=
  match r.id? with
  | some v => .ok v
  | none => .error (missing idName)

/-- The route of a chain of ids. -/
def ofIds (id : CommandId) : List CommandId → Route
  | [] => last (some (.id id))
  | next :: ids => more (some (.id id)) (ofIds next ids)

/-- The route of a path. -/
def ofPath (p : CommandPath) : Route := ofIds p.head p.below

/-- The ids of a route, if it is whole and they are ids of commands. -/
def ids? : Route → Option (List CommandId)
  | last (some (.id i)) => some [i]
  | more (some (.id i)) rest => rest.ids?.map (i :: ·)
  | _ => none

/-- The path that a route is. -/
def path? (r : Route) : Option CommandPath :=
  match r.ids? with
  | some (i :: ids) => some ⟨i, ids⟩
  | _ => none

theorem ids?_ofIds (id : CommandId) (ids : List CommandId) :
    (ofIds id ids).ids? = some (id :: ids) := by
  induction ids generalizing id with
  | nil => rfl
  | cons next ids ih => simp [ofIds, ids?, ih]

/-- **A path is the route that it makes.** -/
theorem path?_ofPath (p : CommandPath) : (ofPath p).path? = some p := by
  simp [ofPath, path?, ids?_ofIds]

/-! ## Following a route -/

/-- What comes after the first step: another route, or `none` at the end. -/
def rest? : Route → Except Misuse (Option Route)
  | last _ => .ok none
  | more _ rest => .ok (some rest)
  | broken _ (some d) => .error (.noAttribute d.kindName idName)
  | broken _ none => .error (missing restName)

/-- The steps of a route, up to the first error. -/
def steps : Route → List (Except Misuse Value)
  | last id => [id.elim (.error (missing idName)) .ok]
  | more none _ | broken none _ => [.error (missing idName)]
  | more (some v) rest => .ok v :: rest.steps
  | broken (some v) (some d) => [.ok v, .error (.noAttribute d.kindName idName)]
  | broken (some v) none => [.ok v, .error (missing restName)]

/-- The values along a route, if it can be followed to its end. -/
def values (r : Route) : Except Misuse (List Value) := r.steps.mapM id

/-- What behind the first step is compared: a route, or a datum. -/
def tail (r : Route) : Except Misuse (Route ⊕ Datum) :=
  match r with
  | last _ => .ok (.inr .null)
  | more _ rest => .ok (.inl rest)
  | broken _ (some d) => .ok (.inr d)
  | broken _ none => .error (missing restName)

/-- Whether two routes are equal: their ids are the same, step by step. -/
def same : Route → Route → Except Misuse Bool
  | more id rest, r => do
    let some v := id | throw (missing idName)
    let w ← r.head
    if !v.same w then return false
    match ← r.tail with
    | .inl other => rest.same other
    | .inr _ => return false
  | s, r => do
    let v ← s.head
    let w ← r.head
    if !v.same w then return false
    match ← s.tail, ← r.tail with
    | .inr d, .inr e => return !d.isNaN && d.same e
    | _, _ => return false

end Route

end CommandSpec
