import CommandSpec.Number.Decimal
import CommandSpec.Text.Quoted

/-!
# Datum — plain data of unknown kind

What a caller hands over need not be what was asked for: a token list may hold numbers, an error may
carry several parts of different kinds.  A **datum** is such a piece of data.  It has a name for its
kind, two notations, and an equality under which a truth value equals its number.
-/

namespace CommandSpec

/-- A piece of plain data. -/
inductive Datum where
  | null
  | bool (b : Bool)
  | int (n : Int)
  | real (x : Number.Double)
  | text (s : String)
  | list (items : List Datum)
  | record (fields : List (String × Datum))
  deriving Repr, Inhabited

namespace Datum

/-- The name of the datum's kind. -/
def kindName : Datum → String
  | null => "NoneType"
  | bool _ => "bool"
  | int _ => "int"
  | real _ => "float"
  | text _ => "str"
  | list _ => "list"
  | record _ => "dict"

/-! ## Notation -/

mutual

/-- The notation in which texts are quoted. -/
def shown : Datum → String
  | null => "None"
  | bool b => if b then "True" else "False"
  | int n => toString n
  | real x => Number.shortest x
  | text s => Text.quoted s
  | list items => "[" ++ ", ".intercalate (shownItems items) ++ "]"
  | record fields => "\x7b" ++ ", ".intercalate (shownFields fields) ++ "\x7d"

/-- The items of a list, each in that notation. -/
def shownItems : List Datum → List String
  | [] => []
  | d :: ds => d.shown :: shownItems ds

/-- The fields of a record, each key quoted in front of its datum. -/
def shownFields : List (String × Datum) → List String
  | [] => []
  | (key, d) :: fs => (Text.quoted key ++ ": " ++ d.shown) :: shownFields fs

end

/-- The notation in which a text stands for itself. -/
def plain : Datum → String
  | text s => s
  | d => d.shown

/-! ## Equality and truth -/

/-- The finite number that a datum stands for. -/
def number? : Datum → Option Rat
  | bool b => some (if b then 1 else 0)
  | int n => some n
  | real x => x.value?
  | _ => none

mutual

/-- The same data: numbers by value, lists item by item, records key by key in any order. -/
def same : Datum → Datum → Bool
  | null, null => true
  | text s, text t => s = t
  | list xs, list ys => sameItems xs ys
  | record xs, record ys => xs.length = ys.length && within xs ys
  | real .nan, real .nan => true
  | real (.infinite s), real (.infinite t) => s = t
  | a, b =>
    match a.number?, b.number? with
    | some x, some y => x = y
    | _, _ => false

/-- Whether two lists are equal item by item. -/
def sameItems : List Datum → List Datum → Bool
  | [], [] => true
  | x :: xs, y :: ys => same x y && sameItems xs ys
  | _, _ => false

/-- Whether each field of the first record is in the second, with an equal datum. -/
def within : List (String × Datum) → List (String × Datum) → Bool
  | [], _ => true
  | (key, x) :: xs, ys =>
    (match ys.lookup key with
      | some y => same x y
      | none => false) && within xs ys

end

/-- Data are compared by value. -/
instance : BEq Datum := ⟨same⟩

/-- Whether a datum is a number that is none; it is the same as itself, but equals nothing. -/
def isNaN : Datum → Bool
  | real .nan => true
  | _ => false

/-- A datum that stands for an answer; `null` stands for none. -/
def answer? : Datum → Option Datum
  | null => none
  | d => some d

/-- Whether a datum counts as true: zeros and everything empty do not. -/
def truthy : Datum → Bool
  | null => false
  | bool b => b
  | int n => n ≠ 0
  | real x => !x.isZero
  | text s => s ≠ ""
  | list items => !items.isEmpty
  | record fields => !fields.isEmpty

end Datum

end CommandSpec
