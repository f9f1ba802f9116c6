import CommandSpec.Datum

/-!
# Session/Slot — cells that can be changed from outside

The cells of an id, a path or a stream are private, but nothing keeps others from putting a datum
into one, or from emptying it.  A **slot** is such a cell.  `Slot.put` and `Slot.clear` change it,
and `Slot.held` says what is in it.
-/

namespace CommandSpec

/-- A cell that holds what its owner keeps in it, a datum that was put in its place, or nothing. -/
inductive Slot (α : Type) where
  | own (a : α)
  | foreign (d : Datum)
  | empty

namespace Slot

variable {α β : Type}

/-- A slot after a datum has been put into it. -/
def put (_ : Slot α) (d : Datum) : Slot α := foreign d

/-- A slot after it has been emptied; an empty one cannot be. -/
def clear : Slot α → Option (Slot α)
  | empty => none
  | _ => some empty

/-- Whether a slot holds what its owner keeps in it. -/
def isOwn : Slot α → Bool
  | own _ => true
  | _ => false

/-- A slot whose owner keeps something else in it. -/
def map (f : α → β) : Slot α → Slot β
  | own a => own (f a)
  | foreign d => foreign d
  | empty => empty

/-- What a slot comes to: for what its owner keeps, for a datum, and for nothing. -/
def fold (own : α → β) (foreign : Datum → β) (empty : β) : Slot α → β
  | .own a => own a
  | .foreign d => foreign d
  | .empty => empty

/-- A slot can be emptied just if there is something in it. -/
theorem clear_eq_none_iff {s : Slot α} : s.clear = none ↔ s = empty := by
  cases s <;> simp [clear]

theorem clear_put (s : Slot α) (d : Datum) : (s.put d).clear = some empty := rfl

end Slot

end CommandSpec
