import CommandSpec.Session.PathMaking

/-!
# Session/Help — asking a type for help

Help is asked with nothing, with a path, with an id, or with tokens, which are read as a path.  A
path whose cells have been changed is followed step by step; what stands in it in the place of a
path is what the nested type is then asked with.
-/

namespace CommandSpec

/-- How a step names what help is asked with. -/
inductive HelpOperand where
  | idOf (type : String)
  | source (s : Source)

namespace Session

/-- Whether all ids along a path are as they were declared. -/
def isUntouched (s : Session) (p : CommandPath) : Bool :=
  p.ids.all fun i => (s.ids.lookup i.serial).isNone

/-- The command of a type that a step of a route is the id of. -/
def stepCommand (s : Session) (t : CommandType) (step : Value) : Except Fault Member :=
  if t.isRoot then .error (t.noAttr "__ids__")
  else
    let found := match step with
      | .id i => t.members.find? (·.id.serial = i.serial)
      | _ => none
    match found, s.stepShown step with
    | some c, _ => .ok c
    | none, .ok name => .error (Misuse.notAMember name t.name.qualified).fault
    | none, .error e => .error e.fault

/-- The type that a command hands its first field's tokens to, or the error of asking that field for
help. -/
def helper (c : Member) : Except Misuse CommandType :=
  match c.required.head?.or c.optional.head?, c.nested?, c.rest with
  | none, some u, _ => .ok u
  | none, none, none => .error .emptyTuple
  | some f, _, _ => .error (.noTypeAttribute f.converter.label "help")
  | none, none, some r =>
    .error (r.kind.foreign?.elim (.noTypeAttribute Converter.text.label "help") (·.lacks "help"))

end Session

namespace Step

open CommandType (OwnedTopic)

/-- The topic that tokens lead to. -/
def topicOfTokens (t : CommandType) (source : Source) (v : Value) : Step OwnedTopic := do
  match t.instead? "parse_path" with
  | some s =>
    let w ← ofMisuse (s.call [v])
    misuse (.notCallable (← ofMisuse ((← get).attr? w "head")).kindName)
  | none =>
    let p ← ofFault (← readSource t source v t.readPath)
    ofFault (t.topicOf p)

/-- The topic that a type gives for a value that is no path. -/
def topicOfValue (t : CommandType) (source : Source) (v : Value) : Step OwnedTopic := do
  if let some e := t.helpFault? v then misuse e
  match v, source with
  | .none, _ => ofFault t.rootTopic
  | v, .runs _ => topicOfTokens t source v
  | v, source =>
    if (← get).isSource v then topicOfTokens t source v else misuse .notAHelpTarget

/-- The topic that a route leads to. -/
def topicOfRoute (t : CommandType) : Route → Step OwnedTopic
  | .last id => do
    if let some e := t.helpFault? (.thing Route.kindName 0) then misuse e
    let c ← ofFault ((← get).stepCommand t (← ofMisuse (Route.last id).head))
    ofFault (CommandType.ask c .topic)
    return ⟨c.id.serial, c.topic⟩
  | .more id rest => do
    if let some e := t.helpFault? (.thing Route.kindName 0) then misuse e
    let c ← ofFault ((← get).stepCommand t (← ofMisuse (Route.last id).head))
    ofFault (CommandType.ask c .nested)
    topicOfRoute (← ofMisuse (Session.helper c)) rest
  | .broken id rest => do
    if let some e := t.helpFault? (.thing Route.kindName 0) then misuse e
    let c ← ofFault ((← get).stepCommand t (← ofMisuse (Route.last id).head))
    match rest with
    | none => misuse (Route.missing Route.restName)
    | some d =>
      ofFault (CommandType.ask c .nested)
      topicOfValue (← ofMisuse (Session.helper c)) (.value d) (.plain d)

/-- The topic that a type gives for a value. -/
def topicFor (t : CommandType) (source : Source) (v : Value) : Step OwnedTopic := do
  let s ← get
  let whole? : Option CommandPath := match s.settled v with
    | .path p => some p
    | .id i => some (.ofId i)
    | _ => none
  if let some e := t.helpFault? v then misuse e
  match whole?, s.route? v with
  | some p, r? =>
    if s.isUntouched p then ofFault (t.topicOf p)
    else do
      if r?.isNone then
        let _ ← ofMisuse (s.commandOf (.id p.head))
      topicOfRoute t (r?.getD (.ofPath p))
  | none, some r => topicOfRoute t r
  | none, none => topicOfValue t source v

/-- **The topic that a named type gives for what help is asked with.** -/
def help (type : String) (o : HelpOperand) : Step (CommandType × OwnedTopic) := do
  let t ← typeNamed type
  let (source, v) ← match o with
    | .idOf name => pure (Source.value .null, ← idOf name)
    | .source source => pure (source, ← sourceValue source)
  return (t, ← topicFor t source v)

end Step

end CommandSpec
