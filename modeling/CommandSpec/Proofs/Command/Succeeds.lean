import CommandSpec.Proofs.Command.TokenReading
import CommandSpec.Proofs.Step

/-!
# Proofs/Command/Succeeds — when a reading from a list of tokens succeeds

Each reader has succeeded exactly when its steps have (`readTokens_eq_ok_iff`,
`pathTokens_eq_ok_iff`), and nothing is said of how tokens are threaded: the equivalences take a
reading apart, and put one together again.
-/

namespace CommandSpec

namespace TokenReading

variable {ts ts' : List String}

/-! ## Steps -/

theorem next_bind_eq_ok_iff {α : Type} {f : Option String → TokenReading α} {a : α} :
    (next >>= f) ts = .ok a ts' ↔ f ts.head? ts.tail = .ok a ts' := Iff.rfl

theorem peek_bind_eq_ok_iff {α : Type} {f : Option String → TokenReading α} {a : α} :
    (peek >>= f) ts = .ok a ts' ↔ f ts.head? ts = .ok a ts' := Iff.rfl

theorem ask_eq_ok_iff {c : Member} {asked : Asked} {u : Unit} :
    ask c asked ts = .ok u ts' ↔ c.fault? asked = none ∧ ts = ts' := by
  rw [ask]
  cases c.fault? asked with
  | none =>
    rw [pure_eq_ok_iff]
    exact and_congr_left fun _ => ⟨fun _ => rfl, fun _ => rfl⟩
  | some e =>
    constructor
    · exact fun h => absurd h throw_ne_ok
    · exact fun h => nomatch h.1

theorem wrapping_eq_ok_iff {α : Type} {belongs : Fault → Bool} {wrap : Fault → Fault}
    {step : TokenReading α} {a : α} :
    wrapping belongs wrap step ts = .ok a ts' ↔ step ts = .ok a ts' := by
  rw [wrapping]
  cases step ts with
  | ok b ts₁ => exact Iff.rfl
  | error e ts₁ =>
    constructor
    · exact fun h => nomatch h
    · exact fun h => nomatch h

theorem check_eq_ok_iff {ε α : Type} {fault : ε → Fault} {result : Except ε α} {a : α} :
    check fault result ts = .ok a ts' ↔ result = .ok a ∧ ts = ts' := by
  cases result with
  | ok a' =>
    rw [check, pure_eq_ok_iff, Except.ok.injEq]
  | error e =>
    constructor
    · exact fun h => absurd h throw_ne_ok
    · exact fun h => nomatch h.1

theorem convert_eq_ok_iff {cmd : FaultPart} {arg token : String} {converter : Converter}
    {v : Value} :
    convert cmd arg converter token ts = .ok v ts' ↔
      (converter.convert token).1 = .ok v ∧ ts = ts' :=
  check_eq_ok_iff

theorem instead_eq_ok_iff {s : Shared CommandType} {v : Value} :
    instead s ts = .ok v ts' ↔ s.call [.thing Tokens.kindName 0] = .ok v ∧ ts = ts' :=
  check_eq_ok_iff

end TokenReading

open TokenReading

variable {ts ts' : List String}

/-! ## Paths -/

namespace Command

variable {c : Member}

/-- After a command that delegates, a path ends or goes on. -/
theorem belowTokens_some_eq_ok_iff {u : CommandType} (hu : c.subcommands? = some u)
    {nested : (u : CommandType) → c.subcommands? = some u → TokenReading CommandPath}
    {below : List CommandId} :
    c.belowTokens nested ts = .ok below ts' ↔
      (ts = [] ∧ below = [] ∧ ts' = []) ∨
        ts ≠ [] ∧ ∃ p, nested u hu ts = .ok p ts' ∧ p.ids = below := by
  rw [belowTokens_of_some hu, peek_bind_eq_ok_iff]
  cases ts with
  | nil =>
    rw [List.head?_nil]
    constructor
    · rintro ⟨⟩
      exact .inl ⟨rfl, rfl, rfl⟩
    · rintro (⟨-, rfl, rfl⟩ | ⟨h, -⟩)
      · rfl
      · exact absurd rfl h
  | cons t ts =>
    rw [List.head?_cons]
    dsimp only
    rw [map_eq_ok_iff]
    constructor
    · exact fun h => .inr ⟨List.cons_ne_nil t ts, h⟩
    · rintro (⟨h, -⟩ | ⟨-, h⟩)
      · cases h
      · exact h

/-- Below something that is no command type, there is no path. -/
theorem foreignPath_eq_ok_iff {callable : Converter} {below : List CommandId} :
    foreignPath callable ts = .ok below ts' ↔ ts = [] ∧ below = [] ∧ ts' = [] := by
  rw [foreignPath, peek_bind_eq_ok_iff]
  cases ts with
  | nil =>
    constructor
    · rintro ⟨⟩
      exact ⟨rfl, rfl, rfl⟩
    · rintro ⟨-, rfl, rfl⟩
      rfl
  | cons t ts =>
    constructor
    · intro h
      obtain ⟨_, _, -, h⟩ := bind_eq_ok_iff.1 h
      exact absurd h throw_ne_ok
    · exact fun h => nomatch h.1

/-- After any other command, a path ends. -/
theorem belowTokens_none_eq_ok_iff (hu : c.subcommands? = none)
    {nested : (u : CommandType) → c.subcommands? = some u → TokenReading CommandPath}
    {below : List CommandId} :
    c.belowTokens nested ts = .ok below ts' ↔ ts = [] ∧ below = [] ∧ ts' = [] := by
  cases hforeign : c.foreign? with
  | some callable => rw [belowTokens_of_foreign hforeign, foreignPath_eq_ok_iff]
  | none =>
  rw [belowTokens_of_none hu hforeign, next_bind_eq_ok_iff]
  cases ts with
  | nil =>
    constructor
    · rintro ⟨⟩
      exact ⟨rfl, rfl, rfl⟩
    · rintro ⟨-, rfl, rfl⟩
      rfl
  | cons t ts =>
    constructor
    · exact fun h => absurd h throw_ne_ok
    · exact fun h => nomatch h.1

end Command

namespace CommandType

variable {t : CommandType}

/-- A reading that opens with the name of a command goes on with the command of that name. -/
theorem opened_eq_ok_iff {α : Type} {missing root : Fault} {unknown : Fault → Fault}
    {go : Fin t.members.length → TokenReading α} {a : α} :
    (do match ← TokenReading.next with
        | none => throw missing
        | some token =>
          if t.isRoot then throw root
          else match t.resolve token with
            | .error e => throw (unknown e)
            | .ok i => go i : TokenReading α) ts = .ok a ts' ↔
      ∃ token ts₁ i, ts = token :: ts₁ ∧ t.isRoot = false ∧ t.resolve token = .ok i ∧
        go i ts₁ = .ok a ts' := by
  rw [next_bind_eq_ok_iff]
  cases ts with
  | nil =>
    constructor
    · exact fun h => absurd h throw_ne_ok
    · rintro ⟨_, _, _, h, -⟩
      cases h
  | cons token ts₁ =>
    rw [List.head?_cons, List.tail_cons]
    dsimp only
    cases hroot : t.isRoot with
    | true =>
      constructor
      · exact fun h => absurd h throw_ne_ok
      · rintro ⟨_, _, _, -, h, -⟩
        cases h
    | false =>
      rw [if_neg Bool.false_ne_true]
      cases hi : t.resolve token with
      | error e =>
        constructor
        · exact fun h => absurd h throw_ne_ok
        · rintro ⟨_, _, _, ⟨⟩, -, h, -⟩
          rw [hi] at h
          cases h
      | ok i =>
        constructor
        · exact fun h => ⟨token, ts₁, i, rfl, rfl, hi, h⟩
        · rintro ⟨_, _, j, ⟨⟩, -, hj, h⟩
          obtain rfl : i = j := Except.ok.inj (hi.symm.trans hj)
          exact h

/-- **A path is read** when its first token names a command and what follows is read below it. -/
theorem pathTokens_eq_ok_iff {p : CommandPath} :
    t.pathTokens ts = .ok p ts' ↔ ∃ token ts₁ i below, ts = token :: ts₁ ∧ t.isRoot = false ∧
      t.resolve token = .ok i ∧ (t.members.get i).fault? .delegation = none ∧
      (t.members.get i).belowTokens (fun u _ => u.pathTokens) ts₁ = .ok below ts' ∧
      ⟨(t.members.get i).id, below⟩ = p := by
  rw [pathTokens]
  refine opened_eq_ok_iff.trans ?_
  simp only [bind_eq_ok_iff, ask_eq_ok_iff, pure_eq_ok_iff]
  constructor
  · rintro ⟨token, ts₁, i, rfl, hroot, hi, _, _, ⟨hfault, rfl⟩, below, _, hbelow, rfl, rfl⟩
    exact ⟨token, ts₁, i, below, rfl, hroot, hi, hfault, hbelow, rfl⟩
  · rintro ⟨token, ts₁, i, below, rfl, hroot, hi, hfault, hbelow, rfl⟩
    exact ⟨token, ts₁, i, rfl, hroot, hi, (), ts₁, ⟨hfault, rfl⟩, below, ts', hbelow, rfl, rfl⟩

/-- An optional path is read when there is none, or when it is read. -/
theorem optionalPathTokens_eq_ok_iff {v : Value} :
    t.optionalPathTokens ts = .ok v ts' ↔
      (ts = [] ∧ v = .none ∧ ts' = []) ∨
        ts ≠ [] ∧ ∃ p, t.pathTokens ts = .ok p ts' ∧ .path p = v := by
  rw [optionalPathTokens, peek_bind_eq_ok_iff]
  cases ts with
  | nil =>
    constructor
    · rintro ⟨⟩
      exact .inl ⟨rfl, rfl, rfl⟩
    · rintro (⟨-, rfl, rfl⟩ | ⟨h, -⟩)
      · rfl
      · exact absurd rfl h
  | cons token ts =>
    rw [List.head?_cons]
    dsimp only
    rw [map_eq_ok_iff]
    constructor
    · exact fun h => .inr ⟨List.cons_ne_nil token ts, h⟩
    · rintro (⟨h, -⟩ | ⟨-, h⟩)
      · cases h
      · exact h

end CommandType

/-! ## Commands -/

namespace Command

variable {c : Member} {nested : (u : CommandType) → c.nested? = some u → TokenReading Value}

/-- Without a rest field, no token is left. -/
theorem restTokens_none_eq_ok_iff (hr : c.rest = none) {fields : List (String × Value)} :
    c.restTokens nested ts = .ok fields ts' ↔ ts = [] ∧ fields = [] ∧ ts' = [] := by
  rw [restTokens_of_none hr, next_bind_eq_ok_iff]
  cases ts with
  | nil =>
    constructor
    · rintro ⟨⟩
      exact ⟨rfl, rfl, rfl⟩
    · rintro ⟨-, rfl, rfl⟩
      rfl
  | cons t ts =>
    constructor
    · exact fun h => absurd h throw_ne_ok
    · exact fun h => nomatch h.1

/-- With a rest field, its value is read; one that is required needs a token. -/
theorem restTokens_some_eq_ok_iff {r : RestField CommandType} (hr : c.rest = some r)
    {fields : List (String × Value)} :
    c.restTokens nested ts = .ok fields ts' ↔ (ts = [] → r.required = false) ∧
      ∃ v, c.restValue r (fun u hu => nested u (CommandType.nested?_of_rest hr hu)) ts = .ok v ts' ∧
        [(r.attr, v)] = fields := by
  rw [restTokens_of_some hr, peek_bind_eq_ok_iff]
  by_cases hmissing : (ts.head?.isNone && r.required) = true
  · rw [if_pos hmissing]
    obtain ⟨hnil, hrequired⟩ : ts = [] ∧ r.required = true := by simpa using hmissing
    constructor
    · exact fun h => absurd h throw_ne_ok
    · intro h
      exact absurd hrequired (by rw [h.1 hnil]; decide)
  · rw [if_neg hmissing]
    simp only [bind_eq_ok_iff, pure_eq_ok_iff]
    constructor
    · rintro ⟨v, _, hv, rfl, rfl⟩
      exact ⟨fun hnil => by simpa [hnil] using hmissing, v, hv, rfl⟩
    · rintro ⟨-, v, hv, rfl⟩
      exact ⟨v, ts', hv, rfl, rfl⟩

/-- **The fields of a command are read** one after the other, and its value is made of them. -/
theorem fieldTokens_eq_ok_iff {v : Value} :
    c.fieldTokens nested ts = .ok v ts' ↔ ∃ required ts₁ optional ts₂ rest,
      TokenReading.required c.called c.required ts = .ok required ts₁ ∧
      TokenReading.optional c.called c.optional ts₁ = .ok optional ts₂ ∧
      c.restTokens nested ts₂ = .ok rest ts' ∧ c.make (required ++ optional ++ rest) = .ok v := by
  simp only [fieldTokens, bind_eq_ok_iff, check_eq_ok_iff]
  constructor
  · rintro ⟨required, ts₁, hr, optional, ts₂, ho, rest, _, hrest, hv, rfl⟩
    exact ⟨required, ts₁, optional, ts₂, rest, hr, ho, hrest, hv⟩
  · rintro ⟨required, ts₁, optional, ts₂, rest, hr, ho, hrest, hv⟩
    exact ⟨required, ts₁, hr, optional, ts₂, ho, rest, ts', hrest, hv, rfl⟩

end Command

/-- **A command is read** when its first token names it and its fields are read. -/
theorem CommandType.readTokens_eq_ok_iff {t : CommandType} {v : Value} :
    t.readTokens ts = .ok v ts' ↔ ∃ token ts₁ i, ts = token :: ts₁ ∧ t.isRoot = false ∧
      t.resolve token = .ok i ∧ (t.members.get i).fault? .name = none ∧
      (t.members.get i).fault? .command = none ∧
      (t.members.get i).fieldTokens (fun u _ => u.readTokens) ts₁ = .ok v ts' := by
  rw [readTokens]
  refine opened_eq_ok_iff.trans ?_
  simp only [bind_eq_ok_iff, ask_eq_ok_iff]
  constructor
  · rintro ⟨token, ts₁, i, rfl, hroot, hi, _, _, ⟨hname, rfl⟩, _, _, ⟨hcommand, rfl⟩, hv⟩
    exact ⟨token, ts₁, i, rfl, hroot, hi, hname, hcommand, hv⟩
  · rintro ⟨token, ts₁, i, rfl, hroot, hi, hname, hcommand, hv⟩
    exact ⟨token, ts₁, i, rfl, hroot, hi, (), ts₁, ⟨hname, rfl⟩, (), ts₁, ⟨hcommand, rfl⟩, hv⟩

/-! ## The fields of a value -/

theorem Command.attributes_eq (c : Member) :
    c.attributes = c.required.map (·.attr) ++ c.optional.map (·.attr) ++
      c.rest.toList.map (·.attr) := by
  simp [attributes, fields, Function.comp_def]

section Fields

variable {cmd : FaultPart} {c : Member}

/-- A required field takes the first token. -/
theorem required_cons_eq_ok_iff {f : PlainField} {fs : List PlainField}
    {fields : List (String × Value)} :
    TokenReading.required cmd (f :: fs) ts = .ok fields ts' ↔
      ∃ token ts₁ v vs, ts = token :: ts₁ ∧ (f.converter.convert token).1 = .ok v ∧
        TokenReading.required cmd fs ts₁ = .ok vs ts' ∧ (f.attr, v) :: vs = fields := by
  rw [TokenReading.required, next_bind_eq_ok_iff]
  cases ts with
  | nil =>
    constructor
    · exact fun h => absurd h throw_ne_ok
    · rintro ⟨_, _, _, _, ⟨⟩, -⟩
  | cons token ts =>
    rw [List.head?_cons, List.tail_cons]
    simp only [bind_eq_ok_iff, convert_eq_ok_iff, pure_eq_ok_iff]
    constructor
    · rintro ⟨v, _, ⟨hv, rfl⟩, vs, _, hvs, rfl, rfl⟩
      exact ⟨token, ts, v, vs, rfl, hv, hvs, rfl⟩
    · rintro ⟨_, _, v, vs, ⟨⟩, hv, hvs, rfl⟩
      exact ⟨v, ts, ⟨hv, rfl⟩, vs, ts', hvs, rfl, rfl⟩

/-- An optional field leaves what it does not take to the others. -/
theorem optional_cons_eq_ok_iff {f : PlainField} {fs : List PlainField}
    {fields : List (String × Value)} :
    TokenReading.optional cmd (f :: fs) ts = .ok fields ts' ↔
      ∃ v ts₁ vs, TokenReading.optionalValue cmd f ts = .ok v ts₁ ∧
        TokenReading.optional cmd fs ts₁ = .ok vs ts' ∧ (f.attr, v) :: vs = fields := by
  rw [TokenReading.optional]
  simp only [bind_eq_ok_iff, pure_eq_ok_iff]
  constructor
  · rintro ⟨v, ts₁, hv, vs, _, hvs, rfl, rfl⟩
    exact ⟨v, ts₁, vs, hv, hvs, rfl⟩
  · rintro ⟨v, ts₁, vs, hv, hvs, rfl⟩
    exact ⟨v, ts₁, hv, vs, ts', hvs, rfl, rfl⟩

theorem attributes_required : ∀ {fs : List PlainField} {ts ts' : List String}
    {fields : List (String × Value)}, TokenReading.required cmd fs ts = .ok fields ts' →
    fields.map (·.1) = fs.map (·.attr) := by
  intro fs
  induction fs with
  | nil =>
    rintro ts ts' fields ⟨⟩
    rfl
  | cons f fs ih =>
    intro ts ts' fields h
    obtain ⟨_, _, v, vs, -, -, hvs, rfl⟩ := required_cons_eq_ok_iff.1 h
    rw [List.map_cons, List.map_cons, ih hvs]

theorem attributes_optional : ∀ {fs : List PlainField} {ts ts' : List String}
    {fields : List (String × Value)}, TokenReading.optional cmd fs ts = .ok fields ts' →
    fields.map (·.1) = fs.map (·.attr) := by
  intro fs
  induction fs with
  | nil =>
    rintro ts ts' fields ⟨⟩
    rfl
  | cons f fs ih =>
    intro ts ts' fields h
    obtain ⟨v, _, vs, -, hvs, rfl⟩ := optional_cons_eq_ok_iff.1 h
    rw [List.map_cons, List.map_cons, ih hvs]

theorem attributes_rest {nested : (u : CommandType) → c.nested? = some u → TokenReading Value}
    {fields : List (String × Value)} (h : c.restTokens nested ts = .ok fields ts') :
    fields.map (·.1) = c.rest.toList.map (·.attr) := by
  obtain hr | ⟨r, hr⟩ := Option.eq_none_or_eq_some c.rest
  · obtain ⟨-, rfl, -⟩ := (Command.restTokens_none_eq_ok_iff hr).1 h
    rw [hr]
    rfl
  · obtain ⟨-, v, -, rfl⟩ := (Command.restTokens_some_eq_ok_iff hr).1 h
    rw [hr]
    rfl

end Fields

/-- **A value that is read** is what a command of the type makes of its fields, in the order of the
usage. -/
theorem CommandType.exists_make_of_readTokens {t : CommandType} {v : Value}
    (h : t.readTokens ts = .ok v ts') :
    ∃ c ∈ t.members, ∃ fields, c.make fields = .ok v ∧ fields.map (·.1) = c.attributes := by
  obtain ⟨token, ts₁, i, rfl, -, -, -, -, hfields⟩ := readTokens_eq_ok_iff.1 h
  obtain ⟨required, ts₂, optional, ts₃, rest, hrequired, hoptional, hrest, hmake⟩ :=
    Command.fieldTokens_eq_ok_iff.1 hfields
  refine ⟨t.members.get i, List.get_mem t.members i, _, hmake, ?_⟩
  rw [Command.attributes_eq, List.map_append, List.map_append, attributes_required hrequired,
    attributes_optional hoptional, attributes_rest hrest]

/-- It is of the command, where commands make their values by themselves. -/
theorem CommandType.exists_of_readTokens {t : CommandType} (hmakes : ∀ c ∈ t.members, c.MakesOwn)
    {v : Value} (h : t.readTokens ts = .ok v ts') :
    ∃ c ∈ t.members, ∃ fields, v = .command c.id fields ∧ fields.map (·.1) = c.attributes := by
  obtain ⟨c, hc, fields, hmake, hattrs⟩ := exists_make_of_readTokens h
  exact ⟨c, hc, fields, Command.eq_of_make (hmakes c hc) hmake, hattrs⟩

end CommandSpec
