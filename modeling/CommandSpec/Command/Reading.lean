import CommandSpec.Command
import CommandSpec.Token.Stream

/-!
# Command/Reading — the state in which tokens are read

A reading threads the token stream and the log through every step.  Both are kept when a step fails,
so that what has been consumed stays consumed and what has been logged stays logged.
-/

namespace CommandSpec

/-- The tokens that are left, and the events so far. -/
structure ReadState where
  tokens : Tokens
  events : List Event

/-- A step of reading tokens. -/
abbrev Reading := EStateM Fault ReadState

namespace Reading

/-- Log an event. -/
def log (e : Event) : Reading Unit := modify fun s => { s with events := s.events ++ [e] }

/-- Ask a command for something through its id. -/
def ask (c : Member) (asked : Asked) : Reading Unit :=
  match c.fault? asked with
  | some e => throw e.fault
  | none => pure ()

/-- Take a token off the stream by the given operation. -/
def take (op : Tokens → Except Misuse (Option String) × Tokens) :
    Reading (Option String) := fun s =>
  match op s.tokens with
  | (.ok token, ts) => .ok token { s with tokens := ts }
  | (.error e, ts) => .error e.fault { s with tokens := ts }

/-- The next token, which is consumed. -/
def next : Reading (Option String) := take Tokens.next

/-- The next token, which is left. -/
def peek : Reading (Option String) := take Tokens.peek

/-- Convert a token for an argument of a command. -/
def convert (cmd : FaultPart) (arg : String) (converter : Converter) (token : String) :
    Reading Value := fun s =>
  match converter.convert token with
  | (.ok v, es) => .ok v { s with events := s.events ++ es }
  | (.error e, es) => .error (.badConvert cmd arg e) { s with events := s.events ++ es }

/-- Wrap the faults of a step that belong to a family; others pass as they are. -/
def wrapping {α : Type} (belongs : Fault → Bool) (wrap : Fault → Fault) (step : Reading α) :
    Reading α := fun s =>
  match step s with
  | .ok a s => .ok a s
  | .error e s => .error (if belongs e then wrap e else e) s

/-- Go on with a method. -/
def go : Method → Reading Value
  | .done (.ok v) => pure v
  | .done (.error e) => throw e
  | .log event more => do
    log event
    go more
  | .next more => fun s =>
    let (token, ts) := s.tokens.next
    go (more token) { s with tokens := ts }
  | .peek more => fun s =>
    let (token, ts) := s.tokens.peek
    go (more token) { s with tokens := ts }

/-- Call a method of something that is no command type. -/
def call (callable : Converter) (method : String) : Reading Value :=
  match callable.reader? method with
  | some m => go m
  | none => throw (callable.lacks method).fault

/-- Read a path below something that is no command type: where a token is left, it is asked for the
names that it does not have. -/
def foreignPath (callable : Converter) : Reading (List CommandId) := do
  match ← peek with
  | none => return []
  | some _ =>
    discard next
    throw (callable.lacks "__trie__").fault

/-- Convert every token that is left. -/
def convertAll (cmd : FaultPart) (arg : String) (converter : Converter) (s : ReadState) :
    EStateM.Result Fault ReadState (List Value) :=
  match h : s.tokens.next with
  | (.error e, ts) => .error e.fault { s with tokens := ts }
  | (.ok none, ts) => .ok [] { s with tokens := ts }
  | (.ok (some token), ts) =>
    have : ts.size < s.tokens.size := Tokens.size_of_next h
    match converter.convert token with
    | (.error e, es) => .error (.badConvert cmd arg e) ⟨ts, s.events ++ es⟩
    | (.ok v, es) =>
      match convertAll cmd arg converter ⟨ts, s.events ++ es⟩ with
      | .ok vs s => .ok (v :: vs) s
      | .error e s => .error e s
termination_by s.tokens.size

/-- A value for each required field; a missing token is a fault. -/
def required (cmd : FaultPart) : List PlainField → Reading (List (String × Value))
  | [] => pure []
  | f :: fs => do
    match ← next with
    | none => throw (.missingRequired cmd f.name)
    | some token =>
      let v ← convert cmd f.name f.converter token
      let vs ← required cmd fs
      return (f.attr, v) :: vs

/-- A value for each optional field; where no token is left, it is `none`. -/
def optional (cmd : FaultPart) : List PlainField → Reading (List (String × Value))
  | [] => pure []
  | f :: fs => do
    let v ← match ← next with
      | none => pure .none
      | some token => convert cmd f.name f.converter token
    let vs ← optional cmd fs
    return (f.attr, v) :: vs

end Reading

end CommandSpec
