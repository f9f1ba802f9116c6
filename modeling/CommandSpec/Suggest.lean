import CommandSpec.Distance
import CommandSpec.Misuse
import CommandSpec.Number.Residue
import CommandSpec.Text.Case

/-!
# Suggest — the names that someone may have meant

An unknown name is compared with the names that exist.  A name counts no further than one character
past what was typed, so a long name is not held against a short beginning of it.
-/

namespace CommandSpec

/-- How alike two sequences are, from zero to one: one less the edits for each item of the longer
one, held as a double at each step. -/
def likeness {α : Type} [DecidableEq α] (a b : List α) : Rat :=
  let longer := max a.length b.length
  if longer = 0 then 1
  else Number.nearest (1 - Number.nearest (editDistance a b / longer))

/-- How alike two texts are. -/
def similarity (a b : String) : Rat := likeness a.toList b.toList

/-- The least likeness of a suggestion: three tenths, as a double. -/
def suggestionThreshold : Rat := Number.nearest (3 / 10)

section Ranking

variable {σ : Type}

/-- The score of an option: the likeness of what was typed and as much of the option as may count,
letter case apart. -/
def scoreBy (like : String → String → σ) (given option : String) : σ :=
  let key := Text.lower given
  like key (.ofList ((Text.lower option).toList.take (key.length + 1)))

variable [LT σ] [DecidableLT σ]

/-- Whether one scored option ranks no later than another: the more alike first, the names of one
score in their own order. -/
def ranksBefore [DecidableEq σ] (a b : σ × String) : Bool :=
  b.1 < a.1 || (a.1 = b.1 && a.2 ≤ b.2)

/-- The options that reach the threshold, best first. -/
def suggestionsBy [DecidableEq σ] [LE σ] [DecidableLE σ] (like : String → String → σ)
    (threshold : σ) (given : String) (options : List String) : List String :=
  let ranked := (options.map fun o => (scoreBy like given o, o)).mergeSort ranksBefore
  (ranked.filter fun r => threshold ≤ r.1).map (·.2)

end Ranking

/-- **The options that are like what was typed**, to the threshold at least, best first. -/
def suggestions (threshold : Rat) (given : String) (options : List String) : List String :=
  suggestionsBy similarity threshold given options

/-- The suggestions for data of any kind: everything compared must be a text, and the threshold a
number as soon as a likeness is compared with it.  Every likeness is above the negative infinity. -/
def suggestionsFor (threshold given options : Datum) : Except Misuse (List String) := do
  let given ← given.textWith "lower"
  let options ← (← options.items).mapM (·.textWith "lower")
  match threshold with
  | .real (.infinite true) => return suggestions 0 given options
  | .real (.infinite false) | .real .nan => return []
  | _ =>
    match threshold.number?, options with
    | some t, options => return suggestions t given options
    | none, [] => return []
    | none, _ => throw (.notComparable threshold.kindName)

/-! ## Likeness of data

Data of any kind are compared item by item, and items by their **keys**.  A character stands for its
number, so that a list of characters is like the text of them.  A number stands for its residue, and
thus equal numbers have one key; minus one is a key of its own, and what else has it for a residue
stands for minus two. -/

/-- What an item is compared by. -/
inductive ItemKey where
  | number (n : Int)
  | text (s : String)
  /-- The name of a kind that has a single item. -/
  | kind (name : String)
  deriving DecidableEq, Repr

namespace ItemKey

/-- The number that stands for infinity. -/
def infinity : Int := 314159

/-- The key of a finite number. -/
def ofRat (x : Rat) : ItemKey :=
  let r := Number.residue x
  number (if r = -1 then -2 else r)

/-- The key of a text: nothing counts as zero, and a character as its number. -/
def ofText (s : String) : ItemKey :=
  match s.toList with
  | [] => number 0
  | [c] => number c.toNat
  | _ => text s

/-- **The key of an item**; lists and records have none. -/
def ofDatum : Datum → Except Misuse ItemKey
  | .text s => .ok (ofText s)
  | .list items => .error (.notHashable (Datum.list items).kindName)
  | .record fields => .error (.notHashable (Datum.record fields).kindName)
  | .int n => .ok (if n = -1 then number n else ofRat n)
  | .real (.infinite isNegative) => .ok (number (if isNegative then -infinity else infinity))
  | d => .ok (d.number?.elim (kind d.kindName) ofRat)

end ItemKey

/-- The items of a datum as they are compared.  A record is asked for its items by their places,
which are none of its keys. -/
def comparedItems (d : Datum) : Except Misuse (List ItemKey) :=
  match d, d.items with
  | .record (_ :: _), _ => .error (.missingKey (.int 0))
  | _, .ok items => items.mapM ItemKey.ofDatum
  | _, .error _ => .error (.noLength d.kindName)

/-- How alike data of any kind are.  Empty ones are alike, and nothing is like what is missing. -/
def similarityFor (a b : Datum) : Except Misuse Rat := do
  let isMissing (d : Datum) : Bool := d.isNaN || d.kindName = Datum.null.kindName
  if !a.truthy && !b.truthy then return 1
  if isMissing a || isMissing b then return 0
  return likeness (← comparedItems a) (← comparedItems b)

end CommandSpec
