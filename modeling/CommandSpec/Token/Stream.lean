import CommandSpec.Token.Split
import CommandSpec.Value

/-!
# Token/Stream — the tokens that are still to be read

A **stream** hands out its tokens one at a time and can look one token ahead.  It is fused: its
source may signal an end and have more to give when it is asked again, but after the first such
signal the stream stays at its end.  An item of the source is a token, or the reason why it is
refused; a refused item is passed over once it has been reached.
-/

namespace CommandSpec

/-- What a source gives when it is asked: a token, or the reason why there is none. -/
abbrev SourceItem := Except Misuse String

/-- A forward-only stream of tokens.  The source is a list of runs, and signals an end
after each. -/
structure Tokens where
  peeked : Option String
  source : List (List SourceItem)
  ended : Bool

namespace Tokens

/-- The name of the kind of streams. -/
def kindName : String := "Tokens"

/-! ## Making a stream -/

/-- A value as an item of a source: only texts are tokens. -/
def item : Value → SourceItem
  | .text token => .ok token
  | other => .error (.tokenNotText other.kindName)

/-- A stream over runs of values, after each of which the source signals an end. -/
def ofRuns (runs : List (List Value)) : Tokens := ⟨none, runs.map (·.map item), false⟩

/-- A stream over a list of values. -/
def ofItems (items : List Value) : Tokens := ofRuns [items]

/-- A stream over tokens. -/
def ofList (tokens : List String) : Tokens := ⟨none, [tokens.map .ok], false⟩

/-- A stream over the tokens of a line. -/
def ofLine (line : String) : Tokens := ofList (Token.split line)

/-- A stream over the items of a value: a list, the keys of a record, a row or the ids of a path,
but not a text. -/
def wrap? : Value → Except Misuse Tokens
  | .plain (.list items) => .ok (ofItems (items.map .plain))
  | .plain (.record fields) => .ok (ofList (fields.map (·.1)))
  | .row _ items => .ok (ofItems items)
  | .path p => .ok (ofItems (p.ids.map .id))
  | .text _ => .error .tokensAreText
  | _ => .error .tokensNotIterable

/-- A stream over a value; a text is split into its tokens. -/
def of? : Value → Except Misuse Tokens
  | .text line => .ok (ofLine line)
  | v => wrap? v

/-! ## Reading -/

/-- How many items can still be asked for. -/
def size (s : Tokens) : Nat :=
  (if s.peeked.isSome then 1 else 0) + if s.ended then 0 else (s.source.headD []).length

/-- Ask the source for its next item. -/
def pull (s : Tokens) : Except Misuse (Option String) × Tokens :=
  if s.ended then (.ok none, s)
  else match s.source with
    | [] => (.ok none, { s with ended := true })
    | [] :: runs => (.ok none, { s with source := runs, ended := true })
    | (item :: items) :: runs => (item.map some, { s with source := items :: runs })

/-- The next token, which stays in the stream; `none` at the end. -/
def peek (s : Tokens) : Except Misuse (Option String) × Tokens :=
  match s.peeked with
  | some token => (.ok (some token), s)
  | none =>
    match s.pull with
    | (.ok next, s) => (.ok next, { s with peeked := next })
    | (.error e, s) => (.error e, s)

/-- The next token, which leaves the stream; `none` at the end. -/
def next (s : Tokens) : Except Misuse (Option String) × Tokens :=
  match s.peeked with
  | some token => (.ok (some token), { s with peeked := none })
  | none => s.pull

/-- A token that has been read is gone. -/
theorem size_of_next {s s' : Tokens} {token : String} (h : s.next = (.ok (some token), s')) :
    s'.size < s.size := by
  obtain ⟨peeked, source, ended⟩ := s
  cases peeked with
  | some t =>
    obtain ⟨_, rfl⟩ := by simpa [next] using h
    simp [size]
  | none =>
    cases ended with
    | true => simp [next, pull] at h
    | false =>
      match source with
      | [] => simp [next, pull] at h
      | [] :: runs => simp [next, pull] at h
      | (item :: items) :: runs =>
        simp only [next, pull, Bool.false_eq_true, if_false, Prod.mk.injEq] at h
        rw [← h.2]
        simp [size]

/-- The next token, where the end counts as an error. -/
def pop (s : Tokens) : Except Misuse String × Tokens :=
  match s.next with
  | (.ok (some token), s) => (.ok token, s)
  | (.ok none, s) => (.error .streamEnded, s)
  | (.error e, s) => (.error e, s)

/-- All tokens that are left.  When an item is refused, the tokens before it are lost. -/
def drain (s : Tokens) : Except Misuse (List String) × Tokens :=
  match h : s.next with
  | (.ok none, s') => (.ok [], s')
  | (.error e, s') => (.error e, s')
  | (.ok (some token), s') =>
    have : s'.size < s.size := size_of_next h
    match s'.drain with
    | (.ok more, s'') => (.ok (token :: more), s'')
    | (.error e, s'') => (.error e, s'')
termination_by s.size

/-- Whether the stream is known to be at its end. -/
def exhausted (s : Tokens) : Bool := s.ended && s.peeked.isNone

/-- How a stream is shown. -/
def shown (s : Tokens) : String := if s.exhausted then "Tokens(exhausted)" else "Tokens(...)"

end Tokens

end CommandSpec
