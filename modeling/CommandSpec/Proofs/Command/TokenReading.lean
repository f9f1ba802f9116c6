import CommandSpec.Command.Reader
import CommandSpec.Proofs.Token.View

/-!
# Proofs/Command/TokenReading — reading commands from lists of tokens

A reading threads a stream and a log.  What it gives depends on the tokens that the stream holds
alone, so it can be said of lists of tokens: `readTokens` reads a command and `pathTokens` a path,
and both leave the tokens that follow.  `follows_read` and `follows_readPath` say that readings from
streams do what these do.
-/

namespace CommandSpec

/-- A step of reading that is given the tokens as a list. -/
abbrev TokenReading := EStateM Fault (List String)

namespace TokenReading

/-- The next token, which is consumed. -/
def next : TokenReading (Option String) := fun ts => .ok ts.head? ts.tail

/-- The next token, which is left. -/
def peek : TokenReading (Option String) := fun ts => .ok ts.head? ts

/-- A result as a step that reads nothing. -/
def check {ε α : Type} (fault : ε → Fault) : Except ε α → TokenReading α
  | .ok a => pure a
  | .error e => throw (fault e)

/-- Convert a token for an argument of a command. -/
def convert (cmd : FaultPart) (arg : String) (converter : Converter) (token : String) :
    TokenReading Value :=
  check (.badConvert cmd arg) (converter.convert token).1

/-- Wrap the faults of a step that belong to a family. -/
def wrapping {α : Type} (belongs : Fault → Bool) (wrap : Fault → Fault) (step : TokenReading α) :
    TokenReading α := fun ts =>
  match step ts with
  | .ok a ts => .ok a ts
  | .error e ts => .error (if belongs e then wrap e else e) ts

/-- Convert every token that is left. -/
def convertAll (cmd : FaultPart) (arg : String) (converter : Converter) :
    TokenReading (List Value)
  | [] => .ok [] []
  | token :: ts =>
    match (converter.convert token).1 with
    | .error e => .error (.badConvert cmd arg e) ts
    | .ok v =>
      match convertAll cmd arg converter ts with
      | .ok vs ts => .ok (v :: vs) ts
      | .error e ts => .error e ts

/-- A value for each required field. -/
def required (cmd : FaultPart) : List PlainField → TokenReading (List (String × Value))
  | [] => pure []
  | f :: fs => do
    match ← next with
    | none => throw (.missingRequired cmd f.name)
    | some token => do
      let v ← convert cmd f.name f.converter token
      let vs ← required cmd fs
      return (f.attr, v) :: vs

/-- The value of an optional field. -/
def optionalValue (cmd : FaultPart) (f : PlainField) : TokenReading Value := do
  match ← next with
  | none => return .none
  | some token => convert cmd f.name f.converter token

/-- A value for each optional field. -/
def optional (cmd : FaultPart) : List PlainField → TokenReading (List (String × Value))
  | [] => pure []
  | f :: fs => do
    let v ← optionalValue cmd f
    let vs ← optional cmd fs
    return (f.attr, v) :: vs

/-- Ask a command for something through its id. -/
def ask (c : Member) (asked : Asked) : TokenReading Unit :=
  match c.fault? asked with
  | some e => throw e.fault
  | none => pure ()

/-- Call what stands in the place of a method. -/
def instead (s : Shared CommandType) : TokenReading Value :=
  check Misuse.fault (s.call [.thing Tokens.kindName 0])

/-- Go on with a method, where nothing is logged. -/
def go : Method → TokenReading Value
  | .done outcome => check id outcome
  | .log _ more => go more
  | .next more => fun ts => go (more (.ok ts.head?)) ts.tail
  | .peek more => fun ts => go (more (.ok ts.head?)) ts

/-- Call a method of something that is no command type. -/
def call (callable : Converter) (method : String) : TokenReading Value :=
  match callable.reader? method with
  | some m => go m
  | none => throw (callable.lacks method).fault

/-- Read a path below something that is no command type. -/
def foreignPath (callable : Converter) : TokenReading (List CommandId) := do
  match ← peek with
  | none => return []
  | some _ =>
    discard next
    throw (callable.lacks "__trie__").fault

end TokenReading

open TokenReading (next peek)

theorem Command.foreign?_of_rest {c : Member} {r : RestField CommandType} {callable : Converter}
    (hr : c.rest = some r) (hkind : r.kind = .foreign false callable) :
    c.foreign? = some callable := by
  obtain ⟨name, attr, isRequired, kind⟩ := r
  obtain rfl : kind = .foreign false callable := hkind
  rw [foreign?, hr]

theorem Command.exists_of_foreign? {c : Member} {callable : Converter}
    (h : c.foreign? = some callable) : ∃ r, c.rest = some r ∧ r.kind = .foreign false callable := by
  unfold foreign? at h
  split at h
  · next hr =>
    cases h
    exact ⟨_, hr, rfl⟩
  · cases h

/-- What a command delegates to is a type, or nothing else. -/
theorem Command.subcommands?_of_foreign {c : Member} {callable : Converter}
    (h : c.foreign? = some callable) : c.subcommands? = none := by
  obtain ⟨⟨name, attr, isRequired, kind⟩, hr, rfl⟩ := exists_of_foreign? h
  rw [subcommands?, hr]

/-- Read what follows the name of a command in a path, where `nested` reads paths of nested
types. -/
def Command.belowTokens (c : Member)
    (nested : (u : CommandType) → c.subcommands? = some u → TokenReading CommandPath) :
    TokenReading (List CommandId) :=
  match h : c.subcommands? with
  | some u => do
    match ← peek with
    | none => return []
    | some _ => CommandPath.ids <$> nested u h
  | none =>
    match c.foreign? with
    | some callable => TokenReading.foreignPath callable
    | none => do
      match ← next with
      | none => return []
      | some extra => throw (.trailingPath extra)

section BelowTokens

variable {c : Member} {nested : (u : CommandType) → c.subcommands? = some u →
  TokenReading CommandPath}

theorem Command.belowTokens_of_some {u : CommandType} (h : c.subcommands? = some u) :
    c.belowTokens nested = (do
      match ← peek with
      | none => return []
      | some _ => CommandPath.ids <$> nested u h) := by
  rw [belowTokens]
  split
  · next u' h' =>
    obtain rfl := Option.some.inj (h.symm.trans h')
    rfl
  · next h' => rw [h] at h'; cases h'

theorem Command.belowTokens_of_foreign {callable : Converter} (h : c.foreign? = some callable) :
    c.belowTokens nested = TokenReading.foreignPath callable := by
  rw [belowTokens]
  split
  · next u' h' => rw [subcommands?_of_foreign h] at h'; cases h'
  · rw [h]

theorem Command.belowTokens_of_none (h : c.subcommands? = none) (hforeign : c.foreign? = none) :
    c.belowTokens nested = (do
      match ← next with
      | none => return []
      | some extra => throw (.trailingPath extra)) := by
  rw [belowTokens]
  split
  · next u' h' => rw [h] at h'; cases h'
  · rw [hforeign]

end BelowTokens

namespace CommandType

/-- **Read a path** from a list of tokens. -/
def pathTokens (t : CommandType) : TokenReading CommandPath := do
  match ← next with
  | none => throw t.incompletePath
  | some token =>
    if t.isRoot then throw (t.noAttr "__trie__")
    else match t.resolve token with
      | .error e => throw (.badPathId e)
      | .ok i => do
        TokenReading.ask (t.members.get i) .delegation
        let below ← (t.members.get i).belowTokens fun u hu =>
          have : sizeOf u < sizeOf t :=
            sizeOf_nested_lt (List.get_mem t.members i) (nested?_of_subcommands? hu)
          u.pathTokens
        return ⟨(t.members.get i).id, below⟩
termination_by sizeOf t

/-- Read a path if there is a token to read. -/
def optionalPathTokens (t : CommandType) : TokenReading Value := do
  match ← peek with
  | none => return .none
  | some _ => .path <$> t.pathTokens

/-- Read the path that a rest field takes. -/
def pathFieldTokens (t : CommandType) (required : Bool) : TokenReading Value :=
  match t.instead? (pathMethod required) with
  | some s => TokenReading.instead s
  | none => if required then .path <$> t.pathTokens else t.optionalPathTokens

end CommandType

namespace Command

/-- Read the value of a rest field by a method of something that is no command type. -/
def foreignTokens (c : Member) (r : RestField CommandType) (isPath : Bool) (callable : Converter) :
    TokenReading Value :=
  if isPath then
    TokenReading.wrapping Fault.isPathFault (.badConvert c.called r.name)
      (TokenReading.call callable (pathMethod r.required))
  else
    TokenReading.wrapping Fault.isCommandFault (.subcommand c.called)
      (TokenReading.call callable "parse")

/-- Read the value of a rest field, where `nested` reads commands of nested types. -/
def restValue (c : Member) (r : RestField CommandType)
    (nested : (u : CommandType) → r.kind.target? = some u → TokenReading Value) :
    TokenReading Value :=
  match hk : r.kind with
  | .tokens converter => .tuple <$> TokenReading.convertAll c.called r.name converter
  | .path u =>
    TokenReading.wrapping Fault.isPathFault (.badConvert c.called r.name)
      (u.pathFieldTokens r.required)
  | .subcommand u =>
    match u.instead? "parse" with
    | some s => TokenReading.instead s
    | none =>
      TokenReading.wrapping Fault.isCommandFault (.subcommand c.called)
        (nested u (by rw [hk]; rfl))
  | .foreign isPath callable => c.foreignTokens r isPath callable

/-- Read what the rest field takes, if there is one; without one no token may be left. -/
def restTokens (c : Member)
    (nested : (u : CommandType) → c.nested? = some u → TokenReading Value) :
    TokenReading (List (String × Value)) :=
  match hr : c.rest with
  | none => do
    match ← next with
    | none => return []
    | some extra => throw (.trailingArgument c.called extra)
  | some r => do
    let ahead ← peek
    if ahead.isNone && r.required then throw (.missingRequired c.called r.name)
    else do
      let v ← c.restValue r fun u hu => nested u (CommandType.nested?_of_rest hr hu)
      return [(r.attr, v)]

section RestTokens

variable {c : Member} {nested : (u : CommandType) → c.nested? = some u → TokenReading Value}

theorem restTokens_of_none (h : c.rest = none) :
    c.restTokens nested = (do
      match ← next with
      | none => return []
      | some extra => throw (.trailingArgument c.called extra)) := by
  rw [restTokens]
  split
  · rfl
  · next h' => rw [h] at h'; cases h'

theorem restTokens_of_some {r : RestField CommandType} (h : c.rest = some r) :
    c.restTokens nested = (do
      let ahead ← peek
      if ahead.isNone && r.required then throw (.missingRequired c.called r.name)
      else do
        let v ← c.restValue r fun u hu => nested u (CommandType.nested?_of_rest h hu)
        return [(r.attr, v)]) := by
  rw [restTokens]
  split
  · next h' => rw [h] at h'; cases h'
  · next r' h' =>
    obtain rfl := Option.some.inj (h.symm.trans h')
    rfl

/-- A rest field is read, unless it needs a token and there is none. -/
theorem restTokens_eq_of_some {r : RestField CommandType} (h : c.rest = some r)
    (ts : List String) :
    c.restTokens nested ts =
      if ts = [] ∧ r.required = true then .error (.missingRequired c.called r.name) []
      else ((fun v => [(r.attr, v)]) <$>
        c.restValue r fun u hu => nested u (CommandType.nested?_of_rest h hu)) ts := by
  rw [restTokens_of_some h]
  obtain ⟨name, attr, isRequired, kind⟩ := r
  cases ts <;> cases isRequired <;> rfl

end RestTokens

/-- Read the value of a command from the tokens that follow its name. -/
def fieldTokens (c : Member)
    (nested : (u : CommandType) → c.nested? = some u → TokenReading Value) :
    TokenReading Value := do
  let required ← TokenReading.required c.called c.required
  let optional ← TokenReading.optional c.called c.optional
  let rest ← c.restTokens nested
  TokenReading.check Misuse.fault (c.make (required ++ optional ++ rest))

/-- Without other fields, what the rest field takes is the value. -/
theorem fieldTokens_of_nil {c : Member} (hrequired : c.required = []) (hoptional : c.optional = [])
    (nested : (u : CommandType) → c.nested? = some u → TokenReading Value) :
    c.fieldTokens nested =
      c.restTokens nested >>= fun rest => TokenReading.check Misuse.fault (c.make rest) := by
  rw [fieldTokens, hrequired, hoptional]
  rfl

end Command

namespace CommandType

/-- **Read a command** from a list of tokens. -/
def readTokens (t : CommandType) : TokenReading Value := do
  match ← next with
  | none => throw .noInput
  | some token =>
    if t.isRoot then throw (t.noAttr "__trie__")
    else match t.resolve token with
      | .error e => throw (.badId e)
      | .ok i => do
        TokenReading.ask (t.members.get i) .name
        TokenReading.ask (t.members.get i) .command
        (t.members.get i).fieldTokens fun u hu =>
          have : sizeOf u < sizeOf t := sizeOf_nested_lt (List.get_mem t.members i) hu
          u.readTokens
termination_by sizeOf t

end CommandType

end CommandSpec
