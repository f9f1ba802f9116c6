import CommandSpec.Session.Slot
import CommandSpec.Token.Stream

/-!
# Session/Stream — streams whose cells can be changed

A session keeps its streams, so that everyone who has one reads from the same.  A stream has three
cells: its source, the token that has been looked at, and whether its end has been reached.  As long
as they are left alone, it is the stream of tokens that they make up (`tokens?_ofTokens`); after a
cell has been changed, it is one that fails where it comes to that cell.
-/

namespace CommandSpec

/-- The cells of a stream, and the kind of what its source has been made of. -/
structure StreamCells where
  sourceKind : String
  source : Slot (List (List SourceItem))
  peeked : Slot (Option String)
  ended : Slot Bool

namespace StreamCells

/-- The cells of a stream of tokens. -/
def ofTokens (sourceKind : String) (s : Tokens) : StreamCells :=
  ⟨sourceKind, .own s.source, .own s.peeked, .own s.ended⟩

/-- The names of the cells. -/
def sourceName : String := "_iterator"

/-- The name of the cell of the token that has been looked at. -/
def peekedName : String := "_peeked"

/-- The name of the cell that says whether the end has been reached. -/
def endedName : String := "_done"

/-- The error of asking for a cell that is empty. -/
def missing (cell : String) : Misuse := .noAttribute Tokens.kindName cell

/-- Whether the end counts as reached. -/
def isEnded (s : StreamCells) : Bool := s.ended.fold id Datum.truthy false

/-- Why the source cannot be asked. -/
def sourceFault? (s : StreamCells) : Option Misuse :=
  match s.ended with
  | .empty => some (missing endedName)
  | _ =>
    if s.isEnded then none
    else s.source.fold (fun _ => none) (fun d => some (.notAnIterator d.kindName))
      (some (missing sourceName))

/-- A stream of tokens that fails with an error whenever it asks its source. -/
def failing (peeked : Option String) (e : Misuse) : Tokens := ⟨peeked, [[.error e]], false⟩

/-- The stream of tokens of the source, with a token that has been looked at. -/
def behind (s : StreamCells) (peeked : Option String) : Tokens :=
  match s.sourceFault? with
  | some e => failing peeked e
  | none => ⟨peeked, s.source.fold id (fun _ => []) [], s.isEnded⟩

/-- The stream of tokens that the cells make up; the datum that comes first if it is no token. -/
def tokens? (s : StreamCells) : Except Datum Tokens :=
  match s.peeked with
  | .own peeked => .ok (s.behind peeked)
  | .foreign (.text token) => .ok (s.behind (some token))
  | .foreign d => .error d
  | .empty => .ok (failing none (missing peekedName))

/-- The cells after the stream that they made up has become another by reading. -/
def after (s : StreamCells) (t : Tokens) : StreamCells :=
  let peeked := match s.peeked with
    | .empty => .empty
    | _ => .own t.peeked
  if s.sourceFault?.isSome then { s with peeked }
  else { s with
    source := s.source.fold (fun _ => .own t.source) .foreign .empty
    peeked
    ended := if t.ended = s.isEnded then s.ended else .own t.ended }

/-- How a stream is shown. -/
def shown (s : StreamCells) : Except Misuse String :=
  let known (isEnd : Bool) : String := if isEnd then "Tokens(exhausted)" else "Tokens(...)"
  match s.ended, s.peeked with
  | .empty, _ => .error (missing endedName)
  | _, .own peeked => .ok (known (s.isEnded && peeked.isNone))
  | _, .foreign _ => .ok (known false)
  | _, .empty => if s.isEnded then .error (missing peekedName) else .ok (known false)

/-- **Cells that are left alone make up their stream.** -/
theorem tokens?_ofTokens (kind : String) (s : Tokens) : (ofTokens kind s).tokens? = .ok s := by
  obtain ⟨peeked, source, ended⟩ := s
  cases ended <;> rfl

end StreamCells

end CommandSpec
