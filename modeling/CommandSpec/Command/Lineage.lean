import CommandSpec.Command

/-!
# Command/Lineage — the order of a type's ancestors

The ancestors of a type stand in a line that begins with the type itself.  The line of a new type
keeps the lines of its bases and the order of its bases; `merge` builds it, or finds the heads of
lines that contradict each other.
-/

namespace CommandSpec

/-- A type that others are derived from. -/
inductive Ancestor where
  | declared (serial : Nat) (name : String)
  | root (kind : Kind)
  /-- What the two roots have in common. -/
  | base
  | anything
  deriving DecidableEq, Repr

namespace Ancestor

/-- The name of an ancestor. -/
def name : Ancestor → String
  | declared _ n => n
  | root k => (CommandType.root k).name.short
  | base => "_CommandBase"
  | anything => "object"

/-- The head that stands behind no other head. -/
def next? (lines : List (List Ancestor)) : Option Ancestor :=
  (lines.filterMap List.head?).find? fun a => lines.all fun l => !l.tail.contains a

/-- A line after `a` has been taken from its front. -/
def without (a : Ancestor) (line : List Ancestor) : List Ancestor :=
  if line.head? = some a then line.tail else line

/-- Merge lines into one, in `fuel` steps at most.  Where each head stands behind another one, the
heads are the error. -/
def mergeWithin : (fuel : Nat) → List (List Ancestor) → Except (List Ancestor) (List Ancestor)
  | 0, _ => .ok []
  | fuel + 1, lines =>
    let heads := lines.filterMap List.head?
    if heads.isEmpty then .ok []
    else match next? lines with
      | none => .error heads.eraseDups
      | some a => (mergeWithin fuel (lines.map (without a))).map (a :: ·)

/-- **Merge lines into one**, which keeps the order of each. -/
def merge (lines : List (List Ancestor)) : Except (List Ancestor) (List Ancestor) :=
  mergeWithin (lines.flatten.length + 1) lines

end Ancestor

namespace CommandType

/-- A type as an ancestor. -/
def ancestor (t : CommandType) : Ancestor :=
  match t.serial? with
  | some serial => .declared serial t.name.short
  | none => .root t.kind

/-- The line of a type and its ancestors. -/
def lineage (t : CommandType) : List Ancestor :=
  if t.isRoot then [.root t.kind, .base, .anything]
  else [t.ancestor, .root t.kind, .base, .anything]

/-- Check that a type can be derived from the given ones in their order. -/
def checkOrder (bases : List CommandType) : Except Misuse Unit :=
  match bases with
  | [_] => .ok ()
  | _ =>
    match Ancestor.merge (bases.map lineage ++ [bases.map ancestor]) with
    | .error heads => .error (.unorderedBases (heads.map (·.name)))
    | .ok _ => .ok ()

end CommandType

end CommandSpec
