import CommandSpec.Fault
import CommandSpec.Text.Case

/-!
# Trie — names, and the beginnings that stand for them

A **trie** maps names to payloads.  Names are compared without their letter case.  A name is found
by every beginning of it that begins no name with another payload; a whole name wins over the longer
names that it begins.

The names are kept in the order of their declaration.  The tree beside them has a leaf with the
place of the name wherever a key ends, and its branches say which keys go on from there.
-/

namespace CommandSpec

/-- The ways on from a point of the tree: the end of a key, which stands first, and the characters
by which keys go on. -/
inductive Branches where
  | nil
  | leaf (place : Nat) (beside : Branches)
  | branch (label : Char) (below beside : Branches)
  deriving DecidableEq, Repr

namespace Branches

/-- The tree of one key. -/
def spine (place : Nat) : List Char → Branches
  | [] => .leaf place .nil
  | c :: cs => .branch c (spine place cs) .nil

/-- The tree with one more key; a key that is in it already keeps its place. -/
def insert (place : Nat) : Branches → List Char → Branches
  | nil, key => spine place key
  | leaf p beside, [] => leaf p beside
  | leaf p beside, c :: cs => leaf p (beside.insert place (c :: cs))
  | branch l below beside, [] => leaf place (branch l below beside)
  | branch l below beside, c :: cs =>
    if l = c then branch l (below.insert place cs) beside
    else branch l below (beside.insert place (c :: cs))

/-- The ways on after the characters of `key`. -/
def descend : Branches → List Char → Branches
  | b, [] => b
  | nil, _ :: _ => nil
  | leaf _ beside, c :: cs => beside.descend (c :: cs)
  | branch l below beside, c :: cs =>
    if l = c then below.descend cs else beside.descend (c :: cs)

/-- The place of the key that ends here. -/
def here? : Branches → Option Nat
  | leaf p _ => some p
  | _ => none

/-- The places of all keys that go on from here. -/
def places : Branches → List Nat
  | nil => []
  | leaf p beside => p :: beside.places
  | branch _ below beside => below.places ++ beside.places

end Branches

/-- Names and their payloads, with the tree of their keys. -/
structure Trie (α : Type) where
  entries : List (String × α)
  root : Branches

namespace Trie

variable {α : Type}

/-- The key of a name: its lower case. -/
def key (name : String) : List Char := Text.lowerChars name.toList

/-- The tree of some names, the first of which has the given place. -/
def branchesFrom (place : Nat) (tree : Branches) : List String → Branches
  | [] => tree
  | n :: ns => branchesFrom (place + 1) (tree.insert place (key n)) ns

/-- The trie of some entries.  Of several names with one key the first is found. -/
def ofList (entries : List (String × α)) : Trie α :=
  ⟨entries, branchesFrom 0 .nil (entries.map (·.1))⟩

/-- The names, in the order of their declaration. -/
def names (t : Trie α) : List String := t.entries.map (·.1)

/-- Whether the trie has a name, letter case apart. -/
def contains (t : Trie α) (name : String) : Bool := (t.root.descend (key name)).here?.isSome

/-- The first name that is in the tree when its turn comes. -/
def duplicateFrom? (place : Nat) (tree : Branches) : List String → Option String
  | [] => none
  | n :: ns =>
    if (tree.descend (key n)).here?.isSome then some n
    else duplicateFrom? (place + 1) (tree.insert place (key n)) ns

/-- **The trie of entries whose names have different keys.** -/
def ofList? (entries : List (String × α)) : Except Fault (Trie α) :=
  match duplicateFrom? 0 .nil (entries.map (·.1)) with
  | some name => .error (.duplicateIdentifier name)
  | none => .ok (ofList entries)

/-- The trie of entries whose names are data of any kind: the first that is no text, or that repeats
a key, is refused. -/
def ofData? (entries : List (Datum × α)) : Except Fault (Trie α) :=
  let named := entries.map fun
    | (.text name, payload) => some (name, payload)
    | _ => none
  match ofList? ((named.takeWhile Option.isSome).filterMap id) with
  | .error e => .error e
  | .ok t => if named.all Option.isSome then .ok t else .error Misuse.entryNotText.fault

/-- The trie of entries that are data of any kind, up to the first that is no pair of a name and a
payload. -/
def ofEntries? (entries : List Datum) : Except Fault (Trie Datum) := do
  let pairs := entries.map Datum.pair
  let t ← ofData? ((pairs.takeWhile Except.isOk).filterMap Except.toOption)
  match pairs.find? (!·.isOk) with
  | some (.error e) => throw e.fault
  | _ => return t

/-! ## Lookup -/

/-- The entries that an input may stand for: the one whose key it is, or else those whose key it
begins, in the order of their declaration. -/
def candidates (t : Trie α) (input : String) : List (String × α) :=
  let found := t.root.descend (key input)
  match found.here? with
  | some place => t.entries[place]?.toList
  | none =>
    let places := found.places
    (t.entries.zipIdx.filter fun e => places.contains e.2).map (·.1)

/-- **The payload that an input stands for.**  Several candidates are left to `resolve`. -/
def lookup (t : Trie α) (resolve : List (String × α) → Option α) (input : String) :
    Except Fault α :=
  match t.candidates input with
  | [] => .error (.noMatch input (t.names.map .text))
  | [(_, payload)] => .ok payload
  | several =>
    match resolve several with
    | some payload => .ok payload
    | none => .error (.ambiguousId (several.map (·.1)) input)

/-- The payload that all candidates share. -/
def sharedPayload? [BEq α] : List (String × α) → Option α
  | [] => none
  | (_, first) :: more => if more.all (·.2 == first) then some first else none

end Trie

end CommandSpec
