import CommandSpec.Command.Signature

/-!
# Command/Call — what comes of calling a type

A command that is called makes a value that keeps the arguments.  Something else may stand in the
place of what makes its values: a type is then called in its stead, with the command in front of the
arguments, and whatever that gives is the outcome (`CommandType.call`).  The values that are made of
tokens are made in the same way (`Command.make`); `make_eq` says when they are made as they should
be.
-/

namespace CommandSpec

/-- What makes the values of a type; `τ` is the type of command types. -/
inductive Maker (τ : Type) where
  /-- The type by itself. -/
  | own
  /-- Nothing: what stands in the place of it cannot be called. -/
  | uncallable (kind : String)
  /-- Another type. -/
  | type (target : τ)

namespace Maker

variable {τ : Type}

/-- The type that makes the values of another one. -/
def target? : Maker τ → Option τ
  | own | uncallable _ => none
  | type target => some target

/-- Whether a type makes its values by itself. -/
def isOwn : Maker τ → Bool
  | own => true
  | uncallable _ | type _ => false

theorem isOwn_iff {m : Maker τ} : m.isOwn = true ↔ m = .own := by
  cases m <;> simp [isOwn]

end Maker

/-- The name under which a type holds what makes its values. -/
def Command.makerName : String := "__new__"

namespace CommandType

/-- What makes the values of a type. -/
def maker (t : CommandType) : Maker CommandType :=
  if t.hasCell Command.makerName then .uncallable "member_descriptor"
  else match t.instead? Command.makerName with
    | none => .own
    | some (.type u) => .type u
    | some s => .uncallable s.kindName

/-- A type that makes the values of another one is held by it. -/
theorem instead?_of_maker {t u : CommandType} (h : t.maker = .type u) :
    t.instead? Command.makerName = some (.type u) := by
  unfold maker at h
  split at h
  · cases h
  · split at h
    · cases h
    · next hu =>
      cases h
      exact hu
    · cases h

/-- The type that makes the values of a type in the end. -/
def lastMaker (t : CommandType) : CommandType :=
  match h : t.maker with
  | .type u =>
    have : sizeOf u < sizeOf t := sizeOf_instead?_lt (instead?_of_maker h)
    u.lastMaker
  | .own | .uncallable _ => t
termination_by sizeOf t

/-- **The value of a type for the arguments of a call.**  A family has no values of its own, and the
root of the commands has none with fields; the serial number of its value is for the caller to
choose. -/
def call (t : CommandType) (args : List Value) (named : List (String × Value)) :
    Except Misuse Value :=
  match h : t.maker with
  | .uncallable kind => .error (.notCallable kind)
  | .type u =>
    have : sizeOf u < sizeOf t := sizeOf_instead?_lt (instead?_of_maker h)
    u.call (t.value :: args) named
  | .own =>
    match t with
    | .single c => c.bind args named
    | .root .command =>
      if args.isEmpty && named.isEmpty then .ok (.blank 0)
      else .error (.takesNoArguments t.name.short)
    | .root .family | .family _ _ _ _ _ => .error (.setNotConstructible t.name.qualified)
termination_by sizeOf t

/-- A command that makes its values by itself binds the arguments. -/
theorem call_of_own {c : Member} (h : (single c).maker = .own) (args : List Value)
    (named : List (String × Value)) : (single c).call args named = c.bind args named := by
  rw [call]
  split
  · next hmaker => cases h.symm.trans hmaker
  · next hmaker => cases h.symm.trans hmaker
  · rfl

end CommandType

namespace Command

/-- **The value of a command with the given fields**, as it is made once they have been read. -/
def make (c : Member) (fields : List (String × Value)) : Except Misuse Value :=
  match (CommandType.single c).maker with
  | .uncallable kind => .error (.notCallable kind)
  | .type u => u.call [(CommandType.single c).value] fields
  | .own => c.store fields

/-- No other type makes the values of a command. -/
def MakesOwn (c : Member) : Prop := (CommandType.single c).maker.target? = none

instance (c : Member) : Decidable c.MakesOwn := decidable_of_iff _ Option.isNone_iff_eq_none

/-- Whether no name of a command is taken: it makes its values by itself, and each of its attributes
can be given any value. -/
def IsFree (c : Member) : Prop :=
  (CommandType.single c).maker = .own ∧
    ∀ attr ∈ c.attributes, ∀ v, Cell.fault? c.id.owner.short c.attributes attr v = none

/-- Whether all names are free can be decided with one value. -/
theorem isFree_iff {c : Member} :
    c.IsFree ↔ (CommandType.single c).maker.isOwn = true ∧
      ∀ attr ∈ c.attributes,
        (Cell.fault? c.id.owner.short c.attributes attr .none).isNone = true := by
  simp only [Option.isNone_iff_eq_none, Maker.isOwn_iff]
  exact and_congr_right fun _ =>
    ⟨fun h attr ha => h attr ha .none, fun h attr ha => Cell.fault?_eq_none_of_none (h attr ha)⟩

instance (c : Member) : Decidable c.IsFree := decidable_of_iff _ isFree_iff.symm

theorem IsFree.makesOwn {c : Member} (h : c.IsFree) : c.MakesOwn := by
  rw [MakesOwn, h.1]
  rfl

theorem make_of_own {c : Member} (h : (CommandType.single c).maker = .own)
    (fields : List (String × Value)) : c.make fields = c.store fields := by
  rw [make, h]

theorem make_of_type {c : Member} {u : CommandType} (h : (CommandType.single c).maker = .type u)
    (fields : List (String × Value)) :
    c.make fields = u.call [(CommandType.single c).value] fields := by
  rw [make, h]

theorem make_of_uncallable {c : Member} {kind : String}
    (h : (CommandType.single c).maker = .uncallable kind) (fields : List (String × Value)) :
    c.make fields = .error (.notCallable kind) := by
  rw [make, h]

/-- A command that makes a value, and no other type does, makes it by itself. -/
theorem maker_eq_own {c : Member} (hc : c.MakesOwn) {fields : List (String × Value)} {v : Value}
    (h : c.make fields = .ok v) : (CommandType.single c).maker = .own := by
  unfold make at h
  unfold MakesOwn at hc
  generalize (CommandType.single c).maker = m at h hc
  cases m with
  | own => rfl
  | uncallable kind => cases h
  | type u => cases hc

/-- **A value that a command makes by itself** is its own, and has just the fields that were
given. -/
theorem eq_of_make {c : Member} (hc : c.MakesOwn) {fields : List (String × Value)} {v : Value}
    (h : c.make fields = .ok v) : v = .command c.id fields := by
  rw [make_of_own (maker_eq_own hc h), store] at h
  split at h
  · cases h
  · exact (Except.ok.inj h).symm

/-- Where no name is taken, every value can be made. -/
theorem make_eq {c : Member} (h : c.IsFree) {fields : List (String × Value)}
    (hattrs : ∀ f ∈ fields, f.1 ∈ c.attributes) :
    c.make fields = .ok (.command c.id fields) := by
  have hstore : c.storeFault? fields = none :=
    List.findSome?_eq_none_iff.2 fun f hf => h.2 f.1 (hattrs f hf) f.2
  rw [make_of_own h.1, store, hstore]

end Command

/-! ## Replaced methods

Something else may stand in the place of a method.  The method then does what comes of calling
it. -/

/-- What comes of calling what stands in the place of a method. -/
def Shared.call (s : Shared CommandType) (args : List Value) : Except Misuse Value :=
  match s with
  | .type t => t.call args []
  | s => .error (.notCallable s.kindName)

/-- The type whose value comes of calling what stands in the place of a method. -/
def Shared.called? (s : Shared CommandType) : Option CommandType :=
  match s with
  | .type t => some t.lastMaker
  | _ => none

/-- Why a value of a command with the given fields has no items: what stands in the place of its
items is no function that gives some.  A value that has nothing there is not asked. -/
def Command.itemsFault? (c : Member) (fields : List (String × Value)) : Option Misuse :=
  match fields.lookup "__iter__", c.shared.lookup "__iter__" with
  | some .none, _ => some (.notIterable c.id.owner.short)
  | some w, _ => some (.notCallable w.kindName)
  | none, some (.constant .null) | none, none => none
  | none, some s =>
    match s.call [] with
    | .ok w => some (.noIteratorGiven w.kindName)
    | .error e => some e

namespace CommandType

/-- Why the names of a type cannot be told: a value is no list of names. -/
def namesFault? (t : CommandType) : Option Misuse :=
  (t.instead? "names").map fun s =>
    match s.call [], s.called? with
    | .ok (.command _ fields), some (.single c) =>
      (c.itemsFault? fields).getD (.notIterable c.id.owner.short)
    | .ok v, _ => .notIterable v.kindName
    | .error e, _ => e

/-- Why a type gives no help for a target: a value is no topic. -/
def helpFault? (t : CommandType) (target : Value) : Option Misuse :=
  (t.instead? "help").map fun s =>
    match s.call [target] with
    | .ok v => .notATopic v.kindName
    | .error e => e

end CommandType

end CommandSpec
