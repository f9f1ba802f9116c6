import CommandSpec.Session.Answer

/-!
# Session/Reading — reading tokens in a session

Tokens are read from plain data or from what a variable holds.  A stream that a session keeps is
read on from where it is, and stays read.  Anything else is read from its beginning: the ids along a
path, or the items of a row.  A type whose method has been replaced hands the source over to what
stands in the place of it.
-/

namespace CommandSpec

/-- What tokens are read from. -/
inductive Source where
  | variable (name : String)
  | value (d : Datum)
  /-- Runs of items, after each of which an end is signalled. -/
  | runs (items : List (List Datum))

namespace Session

/-- Why a value of a command gives no items. -/
def itemsFault? (s : Session) (v : Value) : Option Misuse :=
  match v with
  | .command i fields => (s.member? i).bind (·.itemsFault? fields)
  | _ => none

/-- Why a value of a command is no source of tokens: it is asked for its type, and then for its
items. -/
def sourceFault? (s : Session) (v : Value) : Option Misuse :=
  (s.typeFault? v).or
    (((s.replaced? v "__class__").map fun _ => Misuse.notAClass).or (s.itemsFault? v))

/-- The stream of tokens over a value that is no stream itself. -/
def tokensOver (s : Session) (v : Value) : Except Misuse Tokens :=
  match s.sourceFault? v, s.route? v with
  | some e, _ => .error e
  | none, some r => .ok ⟨none, [r.steps.map fun step => step >>= Tokens.item], false⟩
  | none, none => Tokens.of? v

/-- Whether tokens can be read from a value, or at least be asked for. -/
def isSource (s : Session) (v : Value) : Bool :=
  (s.stream? v).isSome || (s.sourceFault? v).isSome || (errorOf? (Tokens.of? v)).isNone

/-! ## Ids with other names -/

/-- The names of a type as they are now. -/
def currentName (s : Session) (serial : Nat) (name : TypeName) : TypeName :=
  let part (attr : String) (old : String) : String :=
    match s.patch? serial attr with
    | some (some (.text t)) => t
    | _ => old
  ⟨part "__name__" name.short, part "__qualname__" name.qualified⟩

/-- An id as its cells and its type have it now. -/
def current (s : Session) (i : CommandId) : CommandId :=
  let i := { i with owner := s.currentName i.serial i.owner }
  match (s.ids.lookup i.serial).bind fun c => c.names.fold (fun _ => none) some none with
  | some (.list (.text name :: aliases)) =>
    { i with name, aliases := aliases.map Datum.plain }
  | some (.text names) =>
    match names.toList with
    | c :: cs => { i with name := .ofList [c], aliases := cs.map fun c => .ofList [c] }
    | [] => i
  | _ => i

mutual

/-- A value whose ids are replaced. -/
def withIds (f : CommandId → CommandId) : Value → Value
  | .plain d => .plain d
  | .row k? items => .row k? (allWithIds f items)
  | .id i => .id (f i)
  | .path p => .path ⟨f p.head, p.below.map f⟩
  | .command i fields => .command (f i) (fieldsWithIds f fields)
  | .blank serial => .blank serial
  | .thing kind serial => .thing kind serial

/-- Values whose ids are replaced. -/
def allWithIds (f : CommandId → CommandId) : List Value → List Value
  | [] => []
  | v :: vs => withIds f v :: allWithIds f vs

/-- Fields whose ids are replaced. -/
def fieldsWithIds (f : CommandId → CommandId) : List (String × Value) → List (String × Value)
  | [] => []
  | (name, v) :: fs => (name, withIds f v) :: fieldsWithIds f fs

end

end Session

namespace Step

/-- The value that a source is. -/
def sourceValue : Source → Step Value
  | .variable name => held name
  | .value d => pure (.plain d)
  | .runs _ => pure (.thing "generator" 0)

/-- Run a step of reading over tokens, and keep its events. -/
def run {α : Type} (step : Reading α) (tokens : Tokens) : Step (Except Fault α × Tokens) := do
  let (result, state) := match step ⟨tokens, []⟩ with
    | .ok a state => (Except.ok a, state)
    | .error e state => (.error e, state)
  log state.events
  return (result, state.tokens)

/-- What is reported of a first token that is no text. -/
def noText (t : CommandType) : Fault :=
  if t.isRoot then t.noAttr "__trie__" else (Misuse.notText "lookup").fault

/-- Read against a type from a value.  A stream of the session is left as the reading leaves it. -/
def readFrom {α : Type} (t : CommandType) (v : Value) (step : Reading α) :
    Step (Except Fault α) := do
  match Session.streamSerial? v, (← get).stream? v with
  | some serial, some cells =>
    match cells.tokens? with
    | .error _ =>
      keepStream serial (cells.after (cells.behind none))
      return .error (noText t)
    | .ok tokens =>
      let (result, tokens) ← run step tokens
      keepStream serial (cells.after tokens)
      return result
  | _, _ =>
    let tokens ← ofMisuse ((← get).tokensOver v)
    return (← run step tokens).1

/-- Read against a type from a source. -/
def readSource {α : Type} (t : CommandType) (source : Source) (v : Value) (step : Reading α) :
    Step (Except Fault α) := do
  match source with
  | .runs items => return (← run step (.ofRuns (items.map (·.map .plain)))).1
  | _ => readFrom t v step

/-- **Ask a method of a named type to read from a source.** -/
def readBy (type method : String) (source : Source) (step : CommandType → Reading Value) :
    Step (Except Fault Value) := do
  let t ← typeNamed type
  let v ← sourceValue source
  match t.instead? method with
  | some s => return (s.call [v]).mapError Misuse.fault
  | none =>
    let result ← readSource t source v (step t)
    let s ← get
    match result with
    | .ok w => return .ok (← kept (Session.withIds s.current w))
    | .error e => return .error e

/-- Read a command. -/
def parse (type : String) (source : Source) : Step (Except Fault Value) :=
  readBy type "parse" source CommandType.read

/-- Read a path. -/
def parsePath (type : String) (source : Source) : Step (Except Fault Value) :=
  readBy type "parse_path" source fun t => .path <$> t.readPath

/-- Read a path if there is a token to read. -/
def parsePath? (type : String) (source : Source) : Step (Except Fault Value) :=
  readBy type "parse_path_opt" source fun t => (·.elim .none .path) <$> t.readPath?

/-- The names of a type. -/
def names (type : String) : Step (List String) := do
  let t ← typeNamed type
  match t.namesFault? with
  | some e => misuse e
  | none => if t.isRoot then raise (t.noAttr "__trie__") else return t.names

/-! ## Streams -/

/-- The kind of what the tokens of a datum come from. -/
def sourceKind : Datum → String
  | .list _ => "list_iterator"
  | .record _ => "dict_keyiterator"
  | _ => "generator"

/-- Make a stream over a source, and store it. -/
def makeStream (source : Source) (name? : Option String) : Step String := do
  let v ← match source with
    | .variable name => held name
    | .value d => newStream (sourceKind d) (← ofMisuse (Tokens.of? (.plain d)))
    | .runs items => newStream "generator" (.ofRuns (items.map (·.map .plain)))
  storeIn name? v
  match (← get).stream? v with
  | some cells => ofMisuse cells.shown
  | none => ofMisuse ((← get).shown v)

/-- What is left of a stream when everything has been taken from it: what there was, whether there
is more, and how the stream is shown. -/
structure Drained where
  items : List Datum
  hasMore : Bool
  shown : String

/-- Take everything that is left from the stream of a serial number. -/
def drainStream (serial : Nat) (cells : StreamCells) : Step Drained := do
  let (first, tokens) := match cells.tokens? with
    | .ok tokens => ([], tokens)
    | .error d => ([d], cells.behind none)
  let (items, tokens) := tokens.drain
  let cells := cells.after tokens
  keepStream serial cells
  let items ← ofMisuse items
  let (next, tokens) := tokens.peek
  let cells := cells.after tokens
  keepStream serial cells
  let next ← ofMisuse next
  return ⟨first ++ items.map .text, next.isSome, ← ofMisuse cells.shown⟩

/-- **Take everything that is left** from what a variable holds. -/
def drain (name : String) : Step Drained := do
  let v ← held name
  match Session.streamSerial? v, (← get).stream? v with
  | some serial, some cells => drainStream serial cells
  | _, _ =>
    match (← get).itemsFault? v, v with
    | some e, _ => misuse e
    | none, .plain d =>
      return ⟨← ofMisuse d.items, d.truthy, d.shown⟩
    | none, .row k? items =>
      let data := items.filterMap fun
        | .plain d => some d
        | _ => none
      return ⟨data, !items.isEmpty, ← ofMisuse ((← get).shown (.row k? items))⟩
    | none, v => misuse (.notIterable v.kindName)

end Step

end CommandSpec
