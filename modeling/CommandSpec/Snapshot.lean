import CommandSpec.Misuse

/-!
# Snapshot — handing out what is held without letting it change

What a built type holds is handed out as a **snapshot**: a sequence as a tuple, a mapping behind a
read-only view, a set frozen.  What cannot change is handed out as it is.
-/

namespace CommandSpec

/-- The kinds of things that can be held. -/
inductive Holding where
  | list | tuple | set | mapping | bytes | range | usage
  | scalar (kind : String)
  /-- A number that is none, which equals nothing. -/
  | nan
  deriving DecidableEq, Repr

/-- What is handed out for something held. -/
structure Snapshot where
  kind : String
  /-- Whether it is the very thing that is held. -/
  same : Bool
  /-- Whether it counts as equal to what is held. -/
  equal : Bool
  deriving DecidableEq, Repr

/-- **The snapshot of something held.**  A tuple equals no sequence of another kind. -/
def Holding.snapshot : Holding → Snapshot
  | list | range => ⟨"tuple", false, false⟩
  | tuple => ⟨"tuple", true, true⟩
  | set => ⟨"frozenset", false, true⟩
  | mapping => ⟨"mappingproxy", false, true⟩
  | bytes => ⟨"bytes", true, true⟩
  | usage => ⟨"CommandUsage", true, true⟩
  | scalar kind => ⟨kind, true, true⟩
  | nan => ⟨(Datum.real .nan).kindName, true, false⟩

/-- What kind of thing a datum is to hold. -/
def Holding.ofDatum : Datum → Holding
  | .list _ => list
  | .record _ => mapping
  | d => if d.isNaN then nan else scalar d.kindName

/-- The set of the items of a datum; an item that cannot be looked up is refused. -/
def Holding.ofSet? (d : Datum) : Except Misuse Holding := do
  match (← d.items).find? fun
    | .list _ | .record _ => true
    | _ => false with
  | some item => throw (.notHashable item.kindName)
  | none => return set

/-- A snapshot is the thing itself only where it also equals it, or is a number that is none. -/
theorem Holding.equal_of_same (h : Holding) (hs : h.snapshot.same = true) (hn : h ≠ nan) :
    h.snapshot.equal = true := by
  cases h <;> simp_all [snapshot]

end CommandSpec
