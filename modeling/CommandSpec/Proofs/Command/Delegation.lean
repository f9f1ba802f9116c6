import CommandSpec.Proofs.Command.Declared
import CommandSpec.Proofs.Tinygit

/-!
# Proofs/Command/Delegation — a chain of subcommands is read like its end

A command that delegates reads its only field with the reader of another type: a value is put into a
value of the command (`Delegate.wrapValue`), and a fault of the reading is kept with the name of the
command (`Delegate.wrapFault`).  `Built.parse_of_delegate` says so of one such command and
`Delegates.parse_eq` of a chain of them, by induction on the chain.
-/

namespace CommandSpec

/-- A misuse belongs to no reading. -/
theorem Misuse.isCommandFault_fault (m : Misuse) : m.fault.isCommandFault = false := rfl

/-! ## Commands that delegate -/

/-- **A command that delegates**, with its field and the type that this is read as. -/
structure Delegate where
  command : Member
  field : RestField CommandType
  target : CommandType
  rest_eq : command.rest = some field
  kind_eq : field.kind = .subcommand target

namespace Delegate

/-- A value of the command, with the value of its subcommand. -/
def wrapValue (d : Delegate) (v : Value) : Value := .command d.command.id [(d.field.attr, v)]

/-- A fault of the subcommand, with the name of the command. -/
def wrapFault (d : Delegate) (e : Fault) : Fault := .subcommand d.command.name e

/-- What the command is read as, given what its subcommand is: a value is stored, and the faults of
readings are wrapped; others pass as they are. -/
def wrap (d : Delegate) : Except Fault Value → Except Fault Value
  | .ok v => (d.command.make [(d.field.attr, v)]).mapError Misuse.fault
  | .error e => .error (if e.isCommandFault then d.wrapFault e else e)

theorem nested?_eq (d : Delegate) : d.command.nested? = some d.target :=
  CommandType.nested?_of_rest d.rest_eq (by rw [d.kind_eq]; rfl)

/-- Where no name is taken, a value of the command can be made. -/
theorem make_eq {d : Delegate} (h : d.command.IsFree) (v : Value) :
    d.command.make [(d.field.attr, v)] = .ok (d.wrapValue v) := by
  have hattr : d.field.attr ∈ d.command.attributes := by
    rw [Command.attributes_eq, d.rest_eq]
    exact List.mem_append_right _ (List.mem_singleton_self _)
  exact Command.make_eq h fun f hf => by rwa [List.mem_singleton.1 hf]

/-- Where no name is taken, a value is wrapped. -/
theorem wrap_ok {d : Delegate} (h : d.command.IsFree) (v : Value) :
    d.wrap (.ok v) = .ok (d.wrapValue v) := by
  rw [wrap, make_eq h]
  rfl

theorem wrap_of_commandFault (d : Delegate) {e : Fault} (he : e.isCommandFault = true) :
    d.wrap (.error e) = .error (d.wrapFault e) := by
  rw [wrap, if_pos he]

theorem wrap_of_other (d : Delegate) {e : Fault} (he : e.isCommandFault = false) :
    d.wrap (.error e) = .error e := by
  rw [wrap, if_neg (by simp [he])]

/-! ## Wrapping along a chain -/

variable {ds : List Delegate}

/-- Where no name is taken, a value is wrapped by every command of a chain. -/
theorem foldr_wrap_ok (h : ∀ d ∈ ds, d.command.IsFree) (v : Value) :
    ds.foldr wrap (.ok v) = .ok (ds.foldr wrapValue v) := by
  induction ds with
  | nil => rfl
  | cons d ds ih =>
    rw [List.foldr_cons, ih fun d' hd => h d' (List.mem_cons_of_mem d hd),
      wrap_ok (h d (List.mem_cons_self ..)), List.foldr_cons]

/-- A fault that is wrapped once belongs to a reading, and is wrapped again. -/
theorem isCommandFault_foldr {e : Fault} (he : e.isCommandFault = true) :
    (ds.foldr wrapFault e).isCommandFault = true := by
  cases ds with
  | nil => exact he
  | cons d ds => rfl

/-- A fault of a reading is wrapped by every command of a chain. -/
theorem foldr_wrap_of_commandFault {e : Fault} (he : e.isCommandFault = true) :
    ds.foldr wrap (.error e) = .error (ds.foldr wrapFault e) := by
  induction ds with
  | nil => rfl
  | cons d ds ih =>
    rw [List.foldr_cons, ih, wrap_of_commandFault d (isCommandFault_foldr he), List.foldr_cons]

/-- Another fault is wrapped by none. -/
theorem foldr_wrap_of_other {e : Fault} (he : e.isCommandFault = false) :
    ds.foldr wrap (.error e) = .error e := by
  induction ds with
  | nil => rfl
  | cons d ds ih => rw [List.foldr_cons, ih, wrap_of_other d he]

end Delegate

/-! ## One command -/

theorem Command.restValue_of_subcommand {c : Member} {r : RestField CommandType} {u : CommandType}
    (hkind : r.kind = .subcommand u)
    (nested : (u : CommandType) → r.kind.target? = some u → TokenReading Value) :
    c.restValue r nested = match u.instead? "parse" with
      | some s => TokenReading.instead s
      | none => TokenReading.wrapping Fault.isCommandFault (.subcommand c.called)
        (nested u (by rw [hkind]; rfl)) := by
  obtain ⟨name, attr, isRequired, kind⟩ := r
  obtain rfl : kind = .subcommand u := hkind
  rfl

/-- A command that has subcommands delegates. -/
theorem Command.exists_delegate {c : Member} {u : CommandType} (h : c.subcommands? = some u) :
    ∃ d : Delegate, d.command = c ∧ d.target = u := by
  unfold Command.subcommands? at h
  split at h
  · next hr =>
    cases h
    exact ⟨⟨c, _, u, hr, rfl⟩, rfl, rfl⟩
  · cases h

namespace CommandType

variable {t : CommandType}

/-- **What a type answers** when it is asked to parse a stream of tokens.  Something else may stand
in the place of its reader, and is called with the stream. -/
def answer (t : CommandType) (ts : List String) : Except Fault Value :=
  match t.instead? "parse" with
  | some s => (s.call [.thing Tokens.kindName 0]).mapError Misuse.fault
  | none => t.parse (.ofList ts)

theorem answer_eq_parse (h : t.instead? "parse" = none) (ts : List String) :
    t.answer ts = t.parse (.ofList ts) := by
  rw [answer, h]

end CommandType

/-- **The subcommand of a command** is read as its type answers; the faults of the reading are
wrapped. -/
theorem Delegate.outcome_restValue (d : Delegate) (hcalled : d.command.called = d.command.name)
    (ts : List String) :
    TokenReading.outcome (d.command.restValue d.field (fun u _ => u.readTokens) ts)
      = (d.target.answer ts).mapError fun e => if e.isCommandFault then d.wrapFault e else e := by
  rw [Command.restValue_of_subcommand d.kind_eq, CommandType.answer]
  cases d.target.instead? "parse" with
  | some s =>
    dsimp only
    rw [TokenReading.instead, TokenReading.outcome_check]
    cases s.call [.thing Tokens.kindName 0] <;> rfl
  | none =>
    dsimp only
    rw [TokenReading.outcome_wrapping, CommandType.parse_ofList, hcalled]
    rfl

namespace CommandType

variable {t : CommandType} {token : String}

/-- **A command that delegates is read** as its subcommand answers, unless it needs a token and
there is none. -/
theorem Built.parse_of_delegate (ht : Built t) {d : Delegate} (h : t.ResolvesTo token d.command)
    (ts : List String) :
    t.parse (.ofList (token :: ts)) =
      if ts = [] ∧ d.field.required = true then
        .error (.missingRequired d.command.name d.field.name)
      else d.wrap (d.target.answer ts) := by
  have hdeclared := ht.isDeclared _ h.mem
  obtain ⟨hrequired, hoptional⟩ := hdeclared.plain_eq_nil d.field d.rest_eq d.target d.kind_eq
  rw [ht.parse_of_resolvesTo h, Command.fieldTokens_of_nil hrequired hoptional,
    TokenReading.outcome_bind_check, Command.restTokens_eq_of_some d.rest_eq, hdeclared.called_eq]
  split
  · rfl
  · rw [TokenReading.outcome_map, d.outcome_restValue hdeclared.called_eq]
    cases d.target.answer ts <;> rfl

/-- A command without fields is read from its name alone. -/
theorem Built.parse_of_attributes_eq_nil (ht : Built t) {c : Member} (h : t.ResolvesTo token c)
    (hfields : c.attributes = []) (hfree : c.IsFree) :
    t.parse (.ofList [token]) = .ok (.command c.id []) := by
  rw [Command.attributes_eq, List.append_eq_nil_iff, List.append_eq_nil_iff, List.map_eq_nil_iff,
    List.map_eq_nil_iff, List.map_eq_nil_iff, Option.toList_eq_nil_iff] at hfields
  obtain ⟨⟨hrequired, hoptional⟩, hrest⟩ := hfields
  rw [ht.parse_of_resolvesTo h, Command.fieldTokens_of_nil hrequired hoptional,
    TokenReading.outcome_bind_check, Command.restTokens_of_none hrest]
  show (c.make []).mapError Misuse.fault = _
  rw [Command.make_eq hfree (List.forall_mem_nil _)]
  rfl

theorem Built.target (ht : Built t) {d : Delegate} (h : t.ResolvesTo token d.command) :
    Built d.target :=
  ht.nested h.mem d.nested?_eq

/-! ## A chain of commands -/

/-- **Tokens name a chain of commands that delegate**, each a command of the type that the one
before it delegates to, where nothing stands in the place of the reader. -/
inductive Delegates : CommandType → List String → List Delegate → Delegate → Prop
  | last {t : CommandType} {token : String} {d : Delegate} (h : t.ResolvesTo token d.command) :
    Delegates t [token] [] d
  | cons {t : CommandType} {token : String} {tokens : List String} {d last : Delegate}
    {before : List Delegate} (h : t.ResolvesTo token d.command)
    (reader : d.target.instead? "parse" = none)
    (below : Delegates d.target tokens before last) :
    Delegates t (token :: tokens) (d :: before) last

variable {tokens : List String} {before : List Delegate} {last : Delegate}

theorem Delegates.tokens_ne_nil (h : Delegates t tokens before last) : tokens ≠ [] := by
  cases h <;> exact List.cons_ne_nil _ _

/-- **A chain is read** as the answer of its end, wrapped by all of its commands. -/
theorem Delegates.parse_eq (h : Delegates t tokens before last) (ht : Built t) (ts : List String) :
    t.parse (.ofList (tokens ++ ts)) = before.foldr Delegate.wrap
      (if ts = [] ∧ last.field.required = true then
        .error (.missingRequired last.command.name last.field.name)
      else last.wrap (last.target.answer ts)) := by
  induction h with
  | last h => exact ht.parse_of_delegate h ts
  | cons h reader below ih =>
    rw [List.cons_append, ht.parse_of_delegate h, if_neg, answer_eq_parse reader, ih (ht.target h),
      List.foldr_cons]
    exact fun hnil => below.tokens_ne_nil (List.append_eq_nil_iff.1 hnil.1).1

/-! ## The law -/

/-- **Delegation composes at any depth.**  Where the last command of a chain needs a token and there
is none, this fault is kept with the names of the commands before it.  Otherwise the chain is read
as the type at its end answers: a value is stored in a value of each command, from the last to the
first, and a fault of the reading is kept with the names of all of them. -/
theorem parse_delegates (ht : Built t) (h : Delegates t tokens before last) (ts : List String) :
    (ts = [] → last.field.required = true →
      t.parse (.ofList tokens) = .error (before.foldr Delegate.wrapFault
        (.missingRequired last.command.name last.field.name))) ∧
    ((ts = [] → last.field.required = false) →
      (∀ v, last.target.answer ts = .ok v →
        t.parse (.ofList (tokens ++ ts)) = (before ++ [last]).foldr Delegate.wrap (.ok v) ∧
        ((∀ d ∈ before ++ [last], d.command.IsFree) →
          t.parse (.ofList (tokens ++ ts)) =
            .ok ((before ++ [last]).foldr Delegate.wrapValue v))) ∧
      (∀ e, last.target.answer ts = .error e →
        t.parse (.ofList (tokens ++ ts)) = .error
          (if e.isCommandFault then (before ++ [last]).foldr Delegate.wrapFault e else e)) ∧
      (ts = [] → last.target.instead? "parse" = none →
        t.parse (.ofList tokens)
          = .error ((before ++ [last]).foldr Delegate.wrapFault .noInput))) := by
  have hparse := h.parse_eq ht ts
  refine ⟨fun hnil hrequired => ?_, fun hoptional => ?_⟩
  · subst hnil
    rw [List.append_nil, if_pos ⟨rfl, hrequired⟩] at hparse
    rw [hparse, Delegate.foldr_wrap_of_commandFault rfl]
  have hmissing : ¬ (ts = [] ∧ last.field.required = true) := fun ⟨hnil, hrequired⟩ =>
    absurd (hoptional hnil) (by simp [hrequired])
  -- the answer at the end is wrapped by the last command, and then by those before it
  have hwrap : t.parse (.ofList (tokens ++ ts))
      = (before ++ [last]).foldr Delegate.wrap (last.target.answer ts) := by
    rw [hparse, if_neg hmissing, List.foldr_append]
    rfl
  have hfault : ∀ e, last.target.answer ts = .error e → t.parse (.ofList (tokens ++ ts)) = .error
      (if e.isCommandFault then (before ++ [last]).foldr Delegate.wrapFault e else e) := by
    intro e he
    rw [hwrap, he]
    cases hcommand : e.isCommandFault with
    | true => exact Delegate.foldr_wrap_of_commandFault hcommand
    | false => exact Delegate.foldr_wrap_of_other hcommand
  refine ⟨fun v hv => ⟨by rw [hwrap, hv], fun hfree => ?_⟩, hfault, fun hnil hreader => ?_⟩
  · rw [hwrap, hv, Delegate.foldr_wrap_ok hfree]
  · have hnoInput : last.target.answer ts = .error .noInput := by
      rw [answer_eq_parse hreader, hnil, parse_ofList, readTokens_nil]
      rfl
    have := hfault _ hnoInput
    rwa [hnil, List.append_nil] at this

end CommandType

/-! ## Samples -/

namespace Sample

open CommandType
open Tinygit (declared declaration)

/-- A command without fields. -/
def leaf : CommandType := declared 0 (declaration .command "Leaf" (some "`leaf` Leaf.") [] false)

/-- A command with a subcommand of a type, and constants in its body. -/
def nesting (serial : Nat) (name doc : String) (target : CommandType)
    (constants : List (String × Datum)) : CommandType :=
  declared serial (declaration .command name (some doc)
    (("it", .field ⟨.type target, false⟩) :: constants.map fun e => (e.1, .constant e.2)) true)

/-- A command that needs a leaf. -/
def inner (constants : List (String × Datum)) : CommandType :=
  nesting 1 "Inner" "`inner <it...>` Inner.\n\n# Arguments\nit: Command." leaf constants

/-- A command that takes an inner one. -/
def outer (constants : List (String × Datum)) : CommandType :=
  nesting 2 "Outer" "`outer [it...]` Outer.\n\n# Arguments\nit: Command." (inner constants) []

theorem refersTo_nesting_iff {name doc : String} {target u : CommandType}
    {constants : List (String × Datum)} :
    (declaration .command name (some doc) (("it", .field ⟨.type target, false⟩) ::
      constants.map fun e => (e.1, .constant e.2)) true).RefersTo u → u = target := by
  intro h
  induction constants with
  | nil => exact List.mem_singleton.1 h
  | cons e es ih => exact ih h

theorem isOrdinary_leaf : Tinygit.IsOrdinary leaf := by
  refine Tinygit.isOrdinary_declared (Tinygit.takesTexts_of_fields [] rfl)
    (Tinygit.nestsTypes_of_fields [] rfl) ⟨rfl, rfl, rfl, rfl⟩ fun u hu => ?_
  cases hu

theorem built_leaf : Built leaf := isOrdinary_leaf.built

theorem built_nesting {serial : Nat} {name doc : String} {target : CommandType}
    {constants : List (String × Datum)} (h : Built target) :
    Built (nesting serial name doc target constants) := by
  rw [nesting]
  refine Tinygit.built_declared fun u hu => ?_
  obtain rfl := refersTo_nesting_iff hu
  exact h

/-- The declaration of a nesting command has no functions. -/
theorem nestsTypes_nestingDeclaration {name doc : String} {target : CommandType}
    {constants : List (String × Datum)} :
    (declaration .command name (some doc) (("it", .field ⟨.type target, false⟩) ::
      constants.map fun e => (e.1, .constant e.2)) true).NestsTypes := by
  intro attr a f ha hf
  rcases List.mem_cons.1 ha with ha | ha
  · cases ha
    cases hf
  · obtain ⟨e, -, he⟩ := List.mem_map.1 ha
    cases he

/-- A nesting command hands its tokens to a type. -/
theorem nestsTypes_nesting {serial : Nat} {name doc : String} {target : CommandType}
    {constants : List (String × Datum)} (h : target.Throughout Command.NestsTypes) :
    (nesting serial name doc target constants).Throughout Command.NestsTypes :=
  Tinygit.throughout_declared (fun m => m.nestsTypes nestsTypes_nestingDeclaration) fun _ hu =>
    refersTo_nesting_iff hu ▸ h

/-- The body of a nesting command has nothing but its constants in the place of a method. -/
theorem lookup_nesting {target : CommandType} {constants : List (String × Datum)} {method : String}
    (hit : method ≠ "it") (h : ∀ e ∈ constants, e.1 ≠ method) :
    List.lookup method (("it", BodyEntry.field ⟨.type target, false⟩) ::
      constants.map fun e => (e.1, .constant e.2)) = none := by
  refine List.lookup_eq_none_iff.2 fun e he => ?_
  rcases List.mem_cons.1 he with rfl | he
  · simpa using hit
  · obtain ⟨e', he', rfl⟩ := List.mem_map.1 he
    simpa using (h e' he').symm

theorem instead?_nesting {serial : Nat} {name doc : String} {target : CommandType}
    {constants : List (String × Datum)} {method : String}
    (hmethod : method ∉ ["it", Declaration.docName, Declaration.placeName])
    (h : ∀ e ∈ constants, e.1 ≠ method) :
    (nesting serial name doc target constants).instead? method = none := by
  rw [List.mem_cons, not_or] at hmethod
  exact Tinygit.instead?_declared_eq_none (lookup_nesting hmethod.1 h) hmethod.2

/-- **A nesting command is ordinary** if its target is, and no constant stands in the place of what
reads or makes values. -/
theorem isOrdinary_nesting {serial : Nat} {name doc : String} {target : CommandType}
    {constants : List (String × Datum)} (htarget : Tinygit.IsOrdinary target)
    (h : ∀ e ∈ constants, e.1 ∉ ["parse", "parse_path", "parse_path_opt", Command.makerName]) :
    Tinygit.IsOrdinary (nesting serial name doc target constants) := by
  have hlookup : ∀ method ∈ ["parse", "parse_path", "parse_path_opt", Command.makerName],
      List.lookup method (("it", BodyEntry.field ⟨.type target, false⟩) ::
        constants.map fun e => (e.1, .constant e.2)) = none := fun method hmethod =>
    lookup_nesting (by rintro rfl; revert hmethod; decide) fun e he heq => h e he (heq ▸ hmethod)
  refine Tinygit.isOrdinary_declared (fun hdelegates => nomatch hdelegates)
    nestsTypes_nestingDeclaration ⟨?_, ?_, ?_, ?_⟩ fun u hu => refersTo_nesting_iff hu ▸ htarget
  all_goals exact hlookup _ (by decide)

theorem built_outer (constants : List (String × Datum)) : Built (outer constants) :=
  built_nesting (built_nesting built_leaf)

/-- What is seen of the commands of a type: their names, whether their names are free, and of those
that delegate the name, the attribute and the mode of the rest field. -/
def shape (t : CommandType) : List (String × Bool × Option (String × String × Bool)) :=
  t.members.map fun c =>
    (c.name, c.IsFree,
      c.subcommands?.bind fun _ => c.rest.map fun r => (r.name, r.attr, r.required))

/-- Such a command delegates to the type, and its canonical name resolves to it. -/
theorem exists_delegate_nesting {serial : Nat} {name doc : String} {target : CommandType}
    {constants : List (String × Datum)} {canonical arg attr : String} {isRequired : Bool}
    (ht : Built (nesting serial name doc target constants))
    (hshape : shape (nesting serial name doc target constants)
      = [(canonical, true, some (arg, attr, isRequired))]) :
    ∃ d : Delegate, (nesting serial name doc target constants).ResolvesTo canonical d.command ∧
      d.target = target ∧ d.command.IsFree ∧
      (d.command.name, d.field.name, d.field.attr, d.field.required)
        = (canonical, arg, attr, isRequired) := by
  obtain ⟨c, more, hmembers, hseen, -⟩ := List.map_eq_cons_iff.1 hshape
  have hc : c ∈ (nesting serial name doc target constants).members :=
    hmembers ▸ List.mem_cons_self ..
  obtain ⟨rfl, hfree, hrest⟩ := by simpa only [Prod.mk.injEq, decide_eq_true_eq] using hseen
  obtain ⟨u, hu, hrest⟩ := Option.bind_eq_some_iff.1 hrest
  obtain ⟨d, rfl, rfl⟩ := Command.exists_delegate hu
  rw [d.rest_eq, Option.map_some, Option.some.injEq] at hrest
  refine ⟨d, ht.resolvesTo_name hc, ?_, hfree, by rw [hrest]⟩
  exact refersTo_nesting_iff (Tinygit.refersTo_of_mem hc (nested?_of_subcommands? hu))

/-- A type with commands is no root. -/
theorem isRoot_of_ne_nil {t : CommandType} (h : t.members ≠ []) : t.isRoot = false := by
  obtain ⟨c, hc⟩ := List.exists_mem_of_ne_nil _ h
  obtain ⟨i, -⟩ := List.mem_iff_get.1 hc
  exact isRoot_of_fin i

theorem isRoot_of_shape {t : CommandType} {seen : String × Bool × Option (String × String × Bool)}
    (h : shape t = [seen]) : t.isRoot = false :=
  isRoot_of_ne_nil fun hnil => by simp [shape, hnil] at h

/-- A leaf is read without any tokens but its name. -/
theorem exists_parse_leaf : ∃ v, leaf.parse (.ofList ["leaf"]) = .ok v := by
  have hfacts : leaf.members ≠ [] ∧
      ∀ c ∈ leaf.members, c.name = "leaf" ∧ c.attributes = [] ∧ c.IsFree := by decide +kernel
  obtain ⟨c, hc, -, hfields, hfree⟩ := built_leaf.exists_resolvesTo hfacts
  exact ⟨_, built_leaf.parse_of_attributes_eq_nil hc hfields hfree⟩

/-- The chain from `outer` over `inner` ends at `leaf`: what is read there is stored twice, and what
is missing after `inner` is reported with `outer`. -/
theorem parse_delegates_outer : ∃ d₁ d₂ : Delegate, Built (outer []) ∧
    Delegates (outer []) ["outer", "inner"] [d₁] d₂ ∧
    (outer []).parse (.ofList ["outer", "inner"])
      = .error (.subcommand "outer" (.missingRequired "inner" "it")) ∧
    ∃ v, leaf.parse (.ofList ["leaf"]) = .ok v ∧
      (outer []).parse (.ofList ["outer", "inner", "leaf"])
        = .ok (.command d₁.command.id [("it", .command d₂.command.id [("it", v)])]) := by
  have ht := built_outer []
  obtain ⟨d₁, h₁, htarget₁, hfree₁, hnames₁⟩ := exists_delegate_nesting ht
    (show shape (outer []) = [("outer", true, some ("it", "it", false))] by decide +kernel)
  obtain ⟨d₂, h₂, htarget₂, hfree₂, hnames₂⟩ := exists_delegate_nesting (built_nesting built_leaf)
    (show shape (inner []) = [("inner", true, some ("it", "it", true))] by decide +kernel)
  simp only [Prod.mk.injEq] at hnames₁ hnames₂
  obtain ⟨hname₁, -, hattr₁, -⟩ := hnames₁
  obtain ⟨hname₂, harg₂, hattr₂, hrequired₂⟩ := hnames₂
  have hreader₁ : d₁.target.instead? "parse" = none := by
    rw [htarget₁, ← Option.isNone_iff_eq_none]
    decide +kernel
  have hreader₂ : d₂.target.instead? "parse" = none := by
    rw [htarget₂, ← Option.isNone_iff_eq_none]
    decide +kernel
  have hchain : Delegates (outer []) ["outer", "inner"] [d₁] d₂ :=
    .cons h₁ hreader₁ (.last (htarget₁ ▸ h₂))
  have hfree : ∀ d ∈ [d₁] ++ [d₂], d.command.IsFree := by
    intro d hd
    rcases List.mem_pair.1 hd with rfl | rfl
    · exact hfree₁
    · exact hfree₂
  obtain ⟨v, hv⟩ := exists_parse_leaf
  refine ⟨d₁, d₂, ht, hchain, ?_, v, hv, ?_⟩
  · have hmissing := (parse_delegates ht hchain []).1 rfl hrequired₂
    simpa [Delegate.wrapFault, hname₁, hname₂, harg₂] using hmissing
  · have hanswer : d₂.target.answer ["leaf"] = .ok v := by
      rw [answer_eq_parse hreader₂, htarget₂, hv]
    have hvalue :=
      (((parse_delegates ht hchain ["leaf"]).2 (fun h => nomatch h)).1 v hanswer).2 hfree
    simpa [Delegate.wrapValue, hattr₁, hattr₂] using hvalue

/-! A constant in a body stands in the place of what has its name. -/

theorem shape_inner : ∀ method ∈ ["help", "names", "parse", "parse_path"],
    shape (inner [(method, .int 5)]) = [("inner", true, some ("it", "it", true))] := by
  intro method hmethod
  simp only [List.mem_cons, List.not_mem_nil, or_false] at hmethod
  rcases hmethod with rfl | rfl | rfl | rfl <;> decide +kernel

theorem shape_outer : ∀ method ∈ ["help", "parse"],
    shape (outer [(method, .int 5)]) = [("outer", true, some ("it", "it", false))] := by
  intro method hmethod
  rcases List.mem_pair.1 hmethod with rfl | rfl <;> decide +kernel

section Inner

variable {method : String} (hmethod : method ∈ ["help", "names", "parse", "parse_path"])
include hmethod

theorem isRoot_inner : (inner [(method, .int 5)]).isRoot = false :=
  isRoot_of_shape (shape_inner method hmethod)

theorem instead?_inner :
    (inner [(method, .int 5)]).instead? method = some (.constant (.int 5)) := by
  have hit : method ≠ "it" := by
    rintro rfl
    revert hmethod
    decide
  refine Tinygit.instead?_declared (isRoot_inner hmethod) ?_
    (fun kind => BodyEntry.sharedBy?_constant kind (.int 5)) ?_
  · simp [Tinygit.declaration, List.lookup_cons, beq_false_of_ne hit]
  · revert method
    decide

end Inner

/-- What a constant in the place of a reader answers is that it cannot be called. -/
theorem answer_of_constant {t : CommandType} {x : Datum}
    (h : t.instead? "parse" = some (.constant x)) (ts : List String) :
    t.answer ts = .error (Misuse.notCallable x.kindName).fault := by
  rw [answer, h]
  rfl

/-- A command cannot be read with a constant. -/
theorem parse_outer_parse : (outer [("parse", .int 5)]).parse (.ofList ["outer", "inner", "leaf"])
    = .error (Misuse.notCallable "int").fault := by
  have ht := built_outer [("parse", .int 5)]
  obtain ⟨d, hresolves, htarget, -⟩ := exists_delegate_nesting ht (shape_outer "parse" (by decide))
  have hconstant : d.target.instead? "parse" = some (.constant (.int 5)) := by
    rw [htarget]
    exact instead?_inner (by decide)
  rw [ht.parse_of_delegate hresolves, if_neg fun h => List.cons_ne_nil _ _ h.1,
    answer_of_constant hconstant]
  exact d.wrap_of_other (Misuse.isCommandFault_fault _)

/-- **A chain is not read where the body of a nested type holds something else for its reader**,
although the type at its end reads the tokens. -/
theorem parse_outer_of_constant : ∃ (d₁ d₂ : Delegate) (v : Value),
    Built (outer [("parse", .int 5)]) ∧
    (outer [("parse", .int 5)]).ResolvesTo "outer" d₁.command ∧
    d₁.target.ResolvesTo "inner" d₂.command ∧
    d₂.target.parse (.ofList ["leaf"]) = .ok v ∧
    (outer [("parse", .int 5)]).parse (.ofList ["outer", "inner", "leaf"])
      = .error (Misuse.notCallable "int").fault := by
  have ht := built_outer [("parse", .int 5)]
  obtain ⟨d₁, h₁, htarget₁, -⟩ := exists_delegate_nesting ht (shape_outer "parse" (by decide))
  obtain ⟨d₂, h₂, htarget₂, -⟩ :=
    exists_delegate_nesting (built_nesting built_leaf) (shape_inner "parse" (by decide))
  obtain ⟨v, hv⟩ := exists_parse_leaf
  exact ⟨d₁, d₂, v, ht, h₁, htarget₁ ▸ h₂, htarget₂ ▸ hv, parse_outer_parse⟩

end Sample

end CommandSpec
