import CommandSpec.Command

/-!
# Command/Storage — where a value keeps its fields

A value keeps each field in a **cell** of its type.  A cell is named for the attribute of the field,
but an attribute that is private, with two underscores in front and not behind, gets the name of the
type in front, and is then not found under its own name.

Some names are not free.  A cell cannot have a name that the body of its type has for something
else. And a name that the type takes only after its cells are made hides the cell, so that no value
can keep the field.
-/

namespace CommandSpec

namespace Cell

/-- The cell in which a value would keep attributes of any name. -/
def record : String := "__dict__"

/-- The cell through which a value is watched. -/
def reference : String := "__weakref__"

/-- Whether an attribute is private to its type. -/
def isPrivate (attr : String) : Bool :=
  let mark := ['_', '_']
  mark.isPrefixOf attr.toList && !mark.isSuffixOf attr.toList

/-- The name of the cell of an attribute. -/
def named (type attr : String) : String :=
  let owner := type.toList.dropWhile (· = '_')
  if isPrivate attr && !owner.isEmpty then "_" ++ .ofList owner ++ attr else attr

/-- The names that the body of every command has for itself. -/
def bodyNames : List String := ["__typename__", "__slots__", "__match_args__", "__init__", "__eq__",
  "__hash__", "__signature__"]

/-- The names that a command takes once its cells are made. -/
def lateNames : List String := ["__docs__", "__fields__", "__subcommand__", "__ids__", "__trie__",
  "__topic__", "__init_subclass__", "__module__"]

/-- Whether the values of a type with these attributes have a cell for attributes of any name. -/
def keepsRecord (attrs : List String) : Bool := attrs.contains record

/-- The attributes that have a cell of the usual kind. -/
def ordinary (attrs : List String) : List String :=
  attrs.filter fun a => a ≠ record && a ≠ reference

/-- Why an attribute of a type cannot be given a value. -/
def fault? (type : String) (attrs : List String) (attr : String) (v : Value) : Option Misuse :=
  if attr = reference then some (.fixedReference type)
  else if attr = record then
    match v with
    | .plain (.record _) => none
    | v => some (.notARecord v.kindName)
  else if keepsRecord attrs then none
  else if named type attr ≠ attr then some (.noCell type attr)
  else if lateNames.contains attr then some (.sharedAttribute type attr)
  else none

/-- An attribute that can be given `none` can be given every value: only records are told from other
values, and `none` is no record. -/
theorem fault?_eq_none_of_none {type attr : String} {attrs : List String}
    (h : fault? type attrs attr .none = none) (v : Value) : fault? type attrs attr v = none := by
  by_cases hrecord : attr = record
  · subst hrecord
    simp [fault?, record, reference] at h
  · simp only [fault?, if_neg hrecord] at h ⊢
    exact h

end Cell

namespace Command

/-- Why a command cannot keep the given fields. -/
def storeFault? (c : Member) (fields : List (String × Value)) : Option Misuse :=
  fields.findSome? fun f => Cell.fault? c.id.owner.short c.attributes f.1 f.2

/-- **The value that keeps the given fields.** -/
def store (c : Member) (fields : List (String × Value)) : Except Misuse Value :=
  match c.storeFault? fields with
  | some e => .error e
  | none => .ok (.command c.id fields)

end Command

end CommandSpec
