import CommandSpec.Field
import CommandSpec.Topic
import CommandSpec.Trie

/-!
# Command — commands, and the types that tokens are read against

A **command** has its documentation and its fields, laid out as its usage says: the required ones,
the optional ones, and at most one rest field.  The rest field may hand its tokens to a nested type:
as a **subcommand**, which is read as a command of that type, or as a **path**, which names one.
What is no type but has the method for it is asked in the same way (`RestKind.foreign`).

A **command type** is a single command or a family of commands; the two root types, from which all
others are derived, have no commands.  Types are nested to any depth and never in a circle, because
a nested type exists before the command that refers to it: the nested type of a member is a smaller
tree (`Command.sizeOf_nested_lt`).
-/

namespace CommandSpec

/-- What a rest field does with the tokens that are left; `τ` is the type of command types. -/
inductive RestKind (τ : Type) where
  /-- Convert them one by one. -/
  | tokens (converter : Converter)
  /-- Read them as the path of a command. -/
  | path (target : τ)
  /-- Read them as a command. -/
  | subcommand (target : τ)
  /-- Call the method of something that is no command type: the one for paths, or the one for
  commands. -/
  | foreign (isPath : Bool) (callable : Converter)

/-- The type that a rest field hands its tokens to. -/
def RestKind.target? {τ : Type} : RestKind τ → Option τ
  | .tokens _ | .foreign _ _ => none
  | .path target | .subcommand target => some target

/-- What a rest field hands its tokens to in the place of a type. -/
def RestKind.foreign? {τ : Type} : RestKind τ → Option Converter
  | .foreign _ callable => some callable
  | _ => none

/-- A field that takes all tokens that are left. -/
structure RestField (τ : Type) where
  name : String
  attr : String
  required : Bool
  kind : RestKind τ

/-- What a type holds under a name for all its values alike. -/
inductive Shared (τ : Type) where
  | constant (value : Datum)
  | type (target : τ)
  /-- The declaration of a field, which is no field of the type. -/
  | argument

/-- What an id is asked for: its name, or what it leads to in its command. -/
inductive Asked where
  | name
  /-- The id of the command. -/
  | command
  /-- Whether the command delegates. -/
  | delegation
  /-- The type that the command delegates to. -/
  | nested
  /-- The topic of the command. -/
  | topic
  deriving DecidableEq, Repr

/-- A command; `τ` is the type of command types. -/
structure Command (τ : Type) where
  id : CommandId
  docs : CommandDocs
  required : List PlainField
  optional : List PlainField
  rest : Option (RestField τ)
  /-- What the command holds for all its values alike, beside its fields. -/
  shared : List (String × Shared τ)
  /-- What is wrong with the id of the command, where it is asked for something. -/
  fault? : Asked → Option Misuse := fun _ => none
  /-- What the id of the command holds in the place of its name, where that is no text. -/
  label? : Option Datum := none

/-- The two kinds of command types. -/
inductive Kind where
  | command | family
  deriving DecidableEq, Repr

/-- The name of a kind. -/
def Kind.label : Kind → String
  | command => "command"
  | family => "command-set"

/-- What tokens can be read against. -/
inductive CommandType where
  /-- The root of all types of a kind. -/
  | root (kind : Kind)
  /-- The type of one command. -/
  | single (command : Command CommandType)
  /-- A family of commands; its serial number tells it from other families. -/
  | family (name : TypeName) (serial : Nat) (summary : Option String)
      (members : List (Command CommandType)) (shared : List (String × Shared CommandType))

/-- A command as types have it for a member. -/
abbrev Member := Command CommandType

namespace Command

/-- The name that a command goes by. -/
def name (c : Member) : String := c.id.name

/-- A command as the part that the faults of its arguments keep. -/
def called (c : Member) : FaultPart := c.label?.elim (c.name : FaultPart) .datum

/-- Every name that tokens can have for a command, the canonical one first. -/
def names (c : Member) : List String := c.docs.usage.ids

/-- The help topic of a command. -/
def topic (c : Member) : Topic := .command c.docs.usage c.docs.desc

/-- The type that a command hands its rest tokens to. -/
def nested? (c : Member) : Option CommandType := c.rest.bind (·.kind.target?)

/-- The type whose commands are the subcommands of a command. -/
def subcommands? (c : Member) : Option CommandType :=
  match c.rest with
  | some ⟨_, _, _, .subcommand target⟩ => some target
  | _ => none

/-- What a command delegates to in the place of a type. -/
def foreign? (c : Member) : Option Converter :=
  match c.rest with
  | some ⟨_, _, _, .foreign false callable⟩ => some callable
  | _ => none

/-- The fields of a command, in the order of its usage. -/
def fields (c : Member) : List Field :=
  c.required.map (fun f => ⟨f.name, f.attr, .required, false, false⟩) ++
    c.optional.map (fun f => ⟨f.name, f.attr, .optional, false, false⟩) ++
    c.rest.toList.map fun r =>
      { name := r.name
        attr := r.attr
        mode := if r.required then .restRequired else .restOptional
        isPath := match r.kind with
          | .path _ | .foreign true _ => true
          | _ => false
        delegates := match r.kind with
          | .subcommand _ | .foreign false _ => true
          | _ => false }

/-- The attributes that the fields of a command are stored under. -/
def attributes (c : Member) : List String := c.fields.map (·.attr)

end Command

namespace CommandType

/-- The names of a type. -/
def name : CommandType → TypeName
  | root .command => ⟨Value.rootName, Value.rootName⟩
  | root .family => ⟨"CommandSet", "CommandSet"⟩
  | single c => c.id.owner
  | family n _ _ _ _ => n

/-- Whether a type is a command or a family. -/
def kind : CommandType → Kind
  | root k => k
  | single _ => .command
  | family _ _ _ _ _ => .family

/-- The commands of a type. -/
def members : CommandType → List Member
  | root _ => []
  | single c => [c]
  | family _ _ _ ms _ => ms

/-- What a type holds for all its values alike; nothing of the roots can be replaced. -/
def shared : CommandType → List (String × Shared CommandType)
  | root _ => []
  | single c => c.shared
  | family _ _ _ _ shared => shared

/-- The serial number of a type; the roots have none. -/
def serial? : CommandType → Option Nat
  | root _ => none
  | single c => some c.id.serial
  | family _ n _ _ _ => some n

/-- Whether a type is one of the two roots. -/
def isRoot : CommandType → Bool
  | root _ => true
  | _ => false

/-- The name of the kind of types. -/
def valueKind : String := "CommandType"

/-- A type as a value. -/
def value (t : CommandType) : Value :=
  .thing valueKind (match t with
    | root .command => 0
    | root .family => 1
    | t => t.serial?.getD 0 + 2)

/-- The ids of a type's commands. -/
def ids (t : CommandType) : List CommandId := t.members.map (·.id)

/-- Every name of a type's commands, aliases included, in the order of their declaration. -/
def names (t : CommandType) : List String := t.members.flatMap (·.names)

/-- Each name with the place of the command that it belongs to. -/
def identifiers (t : CommandType) : List (String × Fin t.members.length) :=
  (List.finRange t.members.length).flatMap fun i => t.members[i].names.map (·, i)

/-- The trie of a type's names. -/
def trie (t : CommandType) : Trie (Fin t.members.length) := .ofList t.identifiers

/-- The place of the command that a token names. -/
def resolve (t : CommandType) (token : String) : Except Fault (Fin t.members.length) :=
  t.trie.lookup Trie.sharedPayload? token

/-- The root topic of a type. -/
def topic? : CommandType → Option Topic
  | root _ => none
  | single c => some c.topic
  | family _ _ summary ms _ => some (.family (summary.map .plain) (ms.map (·.docs.usage)))

/-- The error of asking a type for an attribute that it does not have. -/
def noAttr (t : CommandType) (attr : String) : Fault :=
  (Misuse.noTypeAttribute t.name.short attr).fault

/-- What stands in a type in the place of a method of that name. -/
def instead? (t : CommandType) (method : String) : Option (Shared CommandType) :=
  t.shared.lookup method

/-- Whether the values of a type have a cell of their own for a name. -/
def hasCell (cell : String) (t : CommandType) : Bool :=
  match t with
  | single c => c.attributes.contains cell
  | _ => false

/-- Whether a value is one of a type's commands; the root of the commands has them all. -/
def hasInstance (t : CommandType) (v : Value) : Bool :=
  match t, v with
  | root .command, .command _ _ | root .command, .blank _ => true
  | t, .command id _ => t.ids.contains id
  | _, _ => false

/-- What a type holds is smaller than the type. -/
theorem sizeOf_instead?_lt {t u : CommandType} {method : String}
    (h : t.instead? method = some (.type u)) : sizeOf u < sizeOf t := by
  have hshared : sizeOf u < sizeOf t.shared := by
    obtain ⟨before, after, hsplit, -⟩ := List.lookup_eq_some_iff.1 h
    have := List.sizeOf_lt_of_mem (hsplit ▸ List.mem_append_right before (List.mem_cons_self ..) :
      (method, Shared.type u) ∈ t.shared)
    simp at this
    omega
  cases t with
  | root k => cases h
  | single c =>
    obtain ⟨_, _, _, _, _, _, _⟩ := c
    simp [shared] at hshared ⊢
    omega
  | family _ _ _ _ _ =>
    simp [shared] at hshared ⊢
    omega

/-- **A nested type is smaller than any type that the command is a member of.** -/
theorem sizeOf_nested_lt {t u : CommandType} {c : Member} (hc : c ∈ t.members)
    (hu : c.nested? = some u) : sizeOf u < sizeOf t := by
  have key : sizeOf u < sizeOf c := by
    obtain ⟨_, _, _, _, rest, _, _⟩ := c
    cases rest with
    | none => simp [Command.nested?] at hu
    | some r =>
      obtain ⟨_, _, _, kind⟩ := r
      cases kind <;> simp [Command.nested?, RestKind.target?] at hu <;> subst hu <;> simp <;> omega
  cases t with
  | root k => simp [members] at hc
  | single d =>
    obtain rfl : c = d := by simpa [members] using hc
    simp
    omega
  | family n s y ms _ =>
    have := List.sizeOf_lt_of_mem (show c ∈ ms from hc)
    simp
    omega

theorem nested?_of_rest {c : Member} {r : RestField CommandType} {u : CommandType}
    (hr : c.rest = some r) (hu : r.kind.target? = some u) : c.nested? = some u := by
  simp [Command.nested?, hr, hu]

theorem nested?_of_subcommands? {c : Member} {u : CommandType} (h : c.subcommands? = some u) :
    c.nested? = some u := by
  unfold Command.subcommands? at h
  split at h
  · next hr =>
    cases h
    exact nested?_of_rest hr rfl
  · simp at h

end CommandType

namespace Shared

/-- What a type holds, as a value. -/
def value : Shared CommandType → Value
  | constant d => .plain d
  | type t => t.value
  | argument => .thing "Argument" 0

/-- The name of the kind of what a type holds. -/
def kindName (s : Shared CommandType) : String := s.value.kindName

end Shared

end CommandSpec
