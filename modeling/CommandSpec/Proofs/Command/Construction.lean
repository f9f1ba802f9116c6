import CommandSpec.Proofs.Command.Failures

/-!
# Proofs/Command/Construction — a value that is read is the value of a call

A command can be called with values, and it makes the value that it would read if they are what it
converts its tokens to: those of the plain fields by position, and what the rest field takes by
name, if a token is left for it (`Command.passed`).  Where tokens run out, the default of a
parameter is what reading puts in its place: this is seen for the optional fields one by one
(`bindAll_of_optional`), and for the rest field in each of its kinds (`bindNamed_of_restTokens`).
The parameters themselves are such as a call can have (`Parameter.WellFormed`).
-/

namespace CommandSpec

open TokenReading

/-! ## The arguments of a call -/

/-- The values that fields make of the first tokens, as many as there are of both. -/
def PlainField.convertEach : List PlainField → List String → Except Fault (List Value)
  | f :: fs, token :: ts => do
    let v ← (f.converter.convert token).1
    let vs ← convertEach fs ts
    return v :: vs
  | _, _ => .ok []

/-- The value that a rest field makes of all tokens that are left. -/
def RestField.valueOf (r : RestField CommandType) (ts : List String) : Except Fault Value :=
  match r.kind with
  | .tokens converter => (ts.mapM fun token => (converter.convert token).1).map .tuple
  | .path u => (u.parsePath (.ofList ts)).map .path
  | .subcommand u => u.parse (.ofList ts)
  | .foreign isPath callable =>
    outcome (call callable (if isPath then pathMethod r.required else "parse") ts)

namespace Command

/-- What is given by name: the value of the rest field, if a token is left for it. -/
def passedRest (c : Member) (ts : List String) : Except Fault (List (String × Value)) :=
  match c.rest with
  | none => .ok []
  | some r => if ts = [] then .ok [] else (r.valueOf ts).map fun v => [(r.attr, v)]

/-- **The arguments of a call for some tokens**: by position what the plain fields make of the first
ones, and by name what the rest field makes of the others. -/
def passed (c : Member) (ts : List String) :
    Except Fault (List Value × List (String × Value)) := do
  let args ← PlainField.convertEach c.plain ts
  let named ← c.passedRest (ts.drop c.plain.length)
  return (args, named)

end Command

/-- The parameter of a field that takes a token. -/
def PlainField.parameter (default? : Option Value) (f : PlainField) : Parameter :=
  ⟨f.attr, false, default?⟩

/-- The parameter of a rest field after optional ones, or after none. -/
def RestField.parameter (afterOptional : Bool) (r : RestField CommandType) : Parameter :=
  ⟨r.attr, r.required && afterOptional, Parameter.restDefault? r⟩

theorem Command.parameters_eq (c : Member) :
    c.parameters = c.required.map (PlainField.parameter none) ++
      (c.optional.map (PlainField.parameter (some .none)) ++
        c.rest.toList.map (RestField.parameter (!c.optional.isEmpty))) :=
  List.append_assoc ..

namespace PlainField

variable {fs gs : List PlainField} {ts : List String} {vs ws : List Value}

theorem convertEach_nil (fs : List PlainField) : convertEach fs [] = .ok [] := by
  cases fs <;> rfl

theorem convertEach_cons {f : PlainField} {token : String} {v : Value}
    (hv : (f.converter.convert token).1 = .ok v) (hvs : convertEach fs ts = .ok vs) :
    convertEach (f :: fs) (token :: ts) = .ok (v :: vs) := by
  rw [convertEach, hv, hvs]
  rfl

/-- The fields behind others make values of the tokens behind theirs. -/
theorem convertEach_append (hfs : convertEach fs ts = .ok vs)
    (hgs : convertEach gs (ts.drop fs.length) = .ok ws) :
    convertEach (fs ++ gs) ts = .ok (vs ++ ws) := by
  induction fs generalizing ts vs with
  | nil =>
    obtain rfl := Except.ok.inj hfs
    exact hgs
  | cons f fs ih =>
    cases ts with
    | nil =>
      rw [convertEach_nil] at hfs
      obtain rfl := Except.ok.inj hfs
      rw [List.drop_nil, convertEach_nil] at hgs
      obtain rfl := Except.ok.inj hgs
      rfl
    | cons token ts =>
      rw [convertEach] at hfs
      obtain ⟨v, hv, hfs⟩ := except_bind_eq_ok_iff.1 hfs
      obtain ⟨vs, hvs, h⟩ := except_bind_eq_ok_iff.1 hfs
      obtain rfl := Except.ok.inj h
      exact convertEach_cons hv (ih hvs hgs)

end PlainField

/-! ## Arguments in their places -/

section Binding

variable {cmd : FaultPart} {fs : List PlainField} {ts ts' : List String}
  {fields named : List (String × Value)} {ps : List Parameter} {args : List Value}

theorem bindAll_nil (named : List (String × Value)) (ps : List Parameter) :
    Parameter.bindAll named ps [] = Parameter.bindNamed named ps := by
  rw [Parameter.bindAll]

/-- An argument by position goes to the first parameter. -/
theorem bindAll_cons {f : PlainField} {default? : Option Value} (hf : named.lookup f.attr = none)
    (v : Value) :
    Parameter.bindAll named (f.parameter default? :: ps) (v :: args)
      = (Parameter.bindAll named ps args).map ((f.attr, v) :: ·) := by
  rw [Parameter.bindAll, PlainField.parameter, if_neg Bool.false_ne_true, hf]
  rfl

/-- **What required fields have read** is what their parameters are given. -/
theorem bindAll_of_required (h : required cmd fs ts = .ok fields ts')
    (hnamed : ∀ f ∈ fs, named.lookup f.attr = none) :
    ts' = ts.drop fs.length ∧ ∃ vs, PlainField.convertEach fs ts = .ok vs ∧
      ∀ ps args, Parameter.bindAll named (fs.map (PlainField.parameter none) ++ ps) (vs ++ args)
        = (Parameter.bindAll named ps args).map (fields ++ ·) := by
  induction fs generalizing ts fields with
  | nil =>
    cases h
    refine ⟨rfl, [], rfl, fun ps args => ?_⟩
    cases hbind : Parameter.bindAll named ps args <;> simp [hbind, Except.map]
  | cons f fs ih =>
    obtain ⟨token, ts, v, more, rfl, hv, hmore, rfl⟩ := required_cons_eq_ok_iff.1 h
    obtain ⟨hf, hfs⟩ := List.forall_mem_cons.1 hnamed
    obtain ⟨rfl, vs, hvs, hbind⟩ := ih hmore hfs
    refine ⟨rfl, v :: vs, PlainField.convertEach_cons hv hvs, fun ps args => ?_⟩
    rw [List.map_cons, List.cons_append, List.cons_append, bindAll_cons hf, hbind]
    cases Parameter.bindAll named ps args <;> rfl

/-- **What optional fields have read** is what their parameters are given, or their default. -/
theorem bindAll_of_optional (h : optional cmd fs ts = .ok fields ts')
    (hnamed : ∀ f ∈ fs, named.lookup f.attr = none) :
    ts' = ts.drop fs.length ∧ ∃ vs, PlainField.convertEach fs ts = .ok vs ∧
      ∀ ps, Parameter.bindAll named (fs.map (PlainField.parameter (some .none)) ++ ps) vs
        = (Parameter.bindNamed named ps).map (fields ++ ·) := by
  induction fs generalizing ts fields with
  | nil =>
    cases h
    refine ⟨rfl, [], rfl, fun ps => ?_⟩
    rw [List.map_nil, List.nil_append, bindAll_nil]
    cases hbind : Parameter.bindNamed named ps <;> simp [Except.map]
  | cons f fs ih =>
    obtain ⟨v, ts₁, more, hv, hmore, rfl⟩ := optional_cons_eq_ok_iff.1 h
    obtain ⟨hf, hfs⟩ := List.forall_mem_cons.1 hnamed
    obtain ⟨rfl, vs, hvs, hbind⟩ := ih hmore hfs
    cases ts with
    | nil =>
      cases hv
      rw [List.tail_nil, PlainField.convertEach_nil] at hvs
      obtain rfl := Except.ok.inj hvs
      refine ⟨List.drop_nil, [], rfl, fun ps => ?_⟩
      have hps := hbind ps
      rw [bindAll_nil] at hps ⊢
      rw [List.map_cons, List.cons_append, Parameter.bindNamed, PlainField.parameter, hf, hps]
      cases Parameter.bindNamed named ps <;> rfl
    | cons token ts =>
      obtain ⟨hconvert, rfl⟩ := convert_eq_ok_iff.1 hv
      refine ⟨rfl, v :: vs, PlainField.convertEach_cons hconvert hvs, fun ps => ?_⟩
      rw [List.map_cons, List.cons_append, bindAll_cons hf, hbind]
      cases Parameter.bindNamed named ps <;> rfl

end Binding

/-! ## What the rest field takes -/

/-- Every token that is left has been converted. -/
theorem mapM_of_convertAll {cmd : FaultPart} {arg : String} {converter : Converter} :
    ∀ {ts ts' : List String} {vs : List Value}, convertAll cmd arg converter ts = .ok vs ts' →
      (ts.mapM fun token => (converter.convert token).1) = .ok vs
  | [], _, _, h => by
    cases h
    rfl
  | token :: ts, ts', vs, h => by
    rw [convertAll] at h
    rw [List.mapM_cons]
    cases hv : (converter.convert token).1 with
    | error e =>
      rw [hv] at h
      cases h
    | ok v =>
      rw [hv] at h
      cases hmore : convertAll cmd arg converter ts with
      | error e ts₁ =>
        rw [hmore] at h
        cases h
      | ok more ts₁ =>
        rw [hmore] at h
        cases h
        rw [mapM_of_convertAll hmore]
        rfl

namespace Command

variable {c : Member} {ts ts' : List String} {fields : List (String × Value)}

/-- Where no token is left, a rest field that can do without has its default. -/
theorem restDefault?_of_restValue {r : RestField CommandType} (hforeign : r.kind.foreign? = none)
    (hstandIn : r.standIn? = none) (hrequired : r.required = false) {v : Value}
    (h : c.restValue r (fun u _ => u.readTokens) [] = .ok v ts') :
    Parameter.restDefault? r = some v := by
  obtain ⟨name, attr, isRequired, kind⟩ := r
  obtain rfl : isRequired = false := hrequired
  cases kind with
  | tokens converter =>
    cases h
    rfl
  | path u =>
    have hinstead : u.instead? "parse_path_opt" = none := hstandIn
    have hread : u.pathFieldTokens false [] = .ok v ts' := wrapping_eq_ok_iff.1 h
    rw [CommandType.pathFieldTokens, pathMethod, if_neg Bool.false_ne_true, hinstead] at hread
    cases hread
    rfl
  | subcommand u =>
    have hinstead : u.instead? "parse" = none := hstandIn
    rw [restValue_of_subcommand rfl, hinstead] at h
    have hread : u.readTokens [] = .ok v ts' := wrapping_eq_ok_iff.1 h
    rw [CommandType.readTokens_nil] at hread
    cases hread
  | foreign isPath callable => cases hforeign

/-- A rest field reads what it makes of the tokens that are left. -/
theorem valueOf_of_restValue {r : RestField CommandType} (hstandIn : r.standIn? = none)
    (hts : ts ≠ []) {v : Value} (h : c.restValue r (fun u _ => u.readTokens) ts = .ok v ts') :
    r.valueOf ts = .ok v := by
  obtain ⟨name, attr, isRequired, kind⟩ := r
  cases kind with
  | tokens converter =>
    obtain ⟨vs, hvs, rfl⟩ := map_eq_ok_iff.1 h
    exact except_map_eq_ok_iff.2 ⟨vs, mapM_of_convertAll hvs, rfl⟩
  | path u =>
    have hread : u.pathFieldTokens isRequired ts = .ok v ts' := wrapping_eq_ok_iff.1 h
    rw [CommandType.pathFieldTokens_eq isRequired hstandIn hts] at hread
    obtain ⟨p, hp, rfl⟩ := map_eq_ok_iff.1 hread
    exact except_map_eq_ok_iff.2 ⟨p, CommandType.parsePath_ofList_eq_ok_iff.2 ⟨ts', hp⟩, rfl⟩
  | subcommand u =>
    have hinstead : u.instead? "parse" = none := hstandIn
    rw [restValue_of_subcommand rfl, hinstead] at h
    exact CommandType.parse_ofList_eq_ok_iff.2 ⟨ts', wrapping_eq_ok_iff.1 h⟩
  | foreign isPath callable =>
    rw [RestField.valueOf]
    cases isPath with
    | true =>
      have hread : call callable (pathMethod isRequired) ts = .ok v ts' := wrapping_eq_ok_iff.1 h
      exact congrArg outcome hread
    | false =>
      have hread : call callable "parse" ts = .ok v ts' := wrapping_eq_ok_iff.1 h
      exact congrArg outcome hread

/-- **What the rest field has read** is what its parameter is given, or its default. -/
theorem bindNamed_of_restTokens (hnests : c.NestsTypes) (hreads : c.ReadsRest)
    (afterOptional : Bool) (h : c.restTokens (fun u _ => u.readTokens) ts = .ok fields ts') :
    ∃ named, c.passedRest ts = .ok named ∧ (∀ a ∈ named, a.1 ∈ c.rest.toList.map (·.attr)) ∧
      Parameter.bindNamed named (c.rest.toList.map (RestField.parameter afterOptional))
        = .ok fields := by
  rw [passedRest]
  obtain hr | ⟨r, hr⟩ := Option.eq_none_or_eq_some c.rest
  · obtain ⟨-, rfl, -⟩ := (restTokens_none_eq_ok_iff hr).1 h
    rw [hr]
    exact ⟨[], rfl, fun _ ha => absurd ha List.not_mem_nil, rfl⟩
  · obtain ⟨hpresent, v, hv, rfl⟩ := (restTokens_some_eq_ok_iff hr).1 h
    rw [hr, Option.toList_some, List.map_singleton, List.map_singleton]
    dsimp only
    by_cases hts : ts = []
    · subst hts
      refine ⟨[], if_pos rfl, fun _ ha => absurd ha List.not_mem_nil, ?_⟩
      rw [Parameter.bindNamed, RestField.parameter,
        restDefault?_of_restValue (hnests r hr) (hreads r hr) (hpresent rfl) hv]
      rfl
    · rw [if_neg hts, valueOf_of_restValue (hreads r hr) hts hv]
      refine ⟨[(r.attr, v)], rfl, fun a ha => ?_, ?_⟩
      · rw [List.mem_singleton.1 ha]
        exact List.mem_singleton_self _
      · rw [Parameter.bindNamed, RestField.parameter, List.lookup_cons_self]
        rfl

theorem map_name_parameters (c : Member) : c.parameters.map (·.name) = c.attributes := by
  rw [parameters, attributes_eq]
  simp [Function.comp_def]

/-- No argument is unexpected that is given for the rest field. -/
theorem find?_unexpected_eq_none {named : List (String × Value)}
    (h : ∀ a ∈ named, a.1 ∈ c.rest.toList.map (·.attr)) :
    (named.find? fun a => !c.parameters.any (·.name = a.1)) = none := by
  refine List.find?_eq_none.2 fun a ha hunknown => ?_
  have hattr : a.1 ∈ c.parameters.map (·.name) := by
    rw [map_name_parameters, attributes_eq]
    exact List.mem_append_right _ (h a ha)
  obtain ⟨p, hp, hname⟩ := List.mem_map.1 hattr
  have hany : c.parameters.any (·.name = a.1) = true :=
    List.any_eq_true.2 ⟨p, hp, decide_eq_true hname⟩
  rw [hany] at hunknown
  cases hunknown

/-- **What a command reads is what it makes of the arguments for the tokens.** -/
theorem exists_call_of_fieldTokens (hnodup : c.attributes.Nodup) (hmakes : c.MakesOwn)
    (hnests : c.NestsTypes) (hreads : c.ReadsRest) {v : Value}
    (h : c.fieldTokens (fun u _ => u.readTokens) ts = .ok v ts') :
    ∃ args named, c.passed ts = .ok (args, named) ∧
      (CommandType.single c).call args named = .ok v := by
  obtain ⟨required, ts₁, optional, ts₂, rest, hrequired, hoptional, hrest, hmake⟩ :=
    fieldTokens_eq_ok_iff.1 h
  obtain ⟨named, hpassed, hmem, hbindRest⟩ :=
    bindNamed_of_restTokens hnests hreads (!c.optional.isEmpty) hrest
  rw [attributes_eq, List.nodup_append] at hnodup
  have hnamed : ∀ f ∈ c.plain, named.lookup f.attr = none := by
    intro f hf
    refine List.lookup_eq_none_iff.2 fun a ha => bne_iff_ne.2 fun heq => ?_
    have hattr : f.attr ∈ c.required.map (·.attr) ++ c.optional.map (·.attr) := by
      rw [← List.map_append]
      exact List.mem_map_of_mem hf
    exact hnodup.2.2 _ hattr _ (hmem a ha) heq
  obtain ⟨hnamedRequired, hnamedOptional⟩ := List.forall_mem_append.1 hnamed
  obtain ⟨rfl, vs, hvs, hbindRequired⟩ := bindAll_of_required hrequired hnamedRequired
  obtain ⟨rfl, ws, hws, hbindOptional⟩ := bindAll_of_optional hoptional hnamedOptional
  refine ⟨vs ++ ws, named, ?_, ?_⟩
  · rw [passed, plain, PlainField.convertEach_append hvs hws, List.length_append, ← List.drop_drop,
      hpassed]
    rfl
  · have hfields : Parameter.bindAll named c.parameters (vs ++ ws)
        = .ok (required ++ optional ++ rest) := by
      rw [parameters_eq, hbindRequired, hbindOptional, hbindRest, List.append_assoc]
      rfl
    have hown := maker_eq_own hmakes hmake
    rw [CommandType.call_of_own hown, bind, hfields, find?_unexpected_eq_none hmem]
    rwa [make_of_own hown] at hmake

end Command

/-! ## Signatures -/

/-- **A list of parameters is a signature**: they have different names, each of which can be one;
those by position stand first, and among these the ones with a default last. -/
structure Parameter.WellFormed (ps : List Parameter) : Prop where
  nodup : (ps.map (·.name)).Nodup
  names : ∀ p ∈ ps, Text.isParameterName p.name = true
  kinds : ps.Pairwise fun p q => p.keywordOnly = true → q.keywordOnly = true
  defaults : ps.Pairwise fun p q =>
    p.default?.isSome = true → q.keywordOnly = false → q.default?.isSome = true

/-- A rest field after optional ones is given by name, or it has a default. -/
theorem RestField.parameter_default {r : RestField CommandType}
    (hkind : ¬((∃ u, r.kind = .subcommand u) ∨ ∃ callable, r.kind = .foreign false callable))
    (h : (r.parameter true).keywordOnly = false) : (r.parameter true).default?.isSome = true := by
  obtain ⟨name, attr, isRequired, kind⟩ := r
  obtain rfl : isRequired = false := (Bool.and_true isRequired).symm.trans h
  cases kind with
  | tokens converter => rfl
  | path u => rfl
  | subcommand u => exact absurd (.inl ⟨u, rfl⟩) hkind
  | foreign isPath callable =>
    cases isPath with
    | true => rfl
    | false => exact absurd (.inr ⟨callable, rfl⟩) hkind

/-- Whatever holds of two parameters in turn holds of those of a command, if it holds where a
required field comes first, of optional fields, and of these with the rest field. -/
theorem Command.pairwise_parameters {R : Parameter → Parameter → Prop} {c : Member}
    (hrequired : ∀ (f : PlainField) q, R (f.parameter none) q)
    (hoptional : ∀ f g : PlainField, R (f.parameter (some .none)) (g.parameter (some .none)))
    (hrest : ∀ f ∈ c.optional, ∀ r ∈ c.rest, R (f.parameter (some .none)) (r.parameter true)) :
    c.parameters.Pairwise R := by
  have hlast : (c.rest.toList.map (RestField.parameter (!c.optional.isEmpty))).Pairwise R := by
    cases c.rest with
    | none => exact List.Pairwise.nil
    | some r => exact List.pairwise_singleton R _
  rw [c.parameters_eq, List.pairwise_append, List.pairwise_append, List.pairwise_map,
    List.pairwise_map]
  refine ⟨List.pairwise_of_forall fun f _ => hrequired f _,
    ⟨List.pairwise_of_forall hoptional, hlast, ?_⟩, ?_⟩
  · intro p hp q hq
    obtain ⟨f, hf, rfl⟩ := List.mem_map.1 hp
    obtain ⟨r, hr, rfl⟩ := List.mem_map.1 hq
    rw [List.isEmpty_eq_false_iff_exists_mem.2 ⟨f, hf⟩]
    exact hrest f hf r (Option.mem_toList.1 hr)
  · intro p hp q _
    obtain ⟨f, -, rfl⟩ := List.mem_map.1 hp
    exact hrequired f q

/-- **The parameters of a layout are a signature**, if its attributes can be the names of one. -/
theorem Layout.wellFormed_parameters {usage : Usage} {declared : List (String × Argument)}
    {delegates : Bool} {layout : Layout} (h : of? usage declared delegates = .ok layout)
    (hnodup : layout.attributes.Nodup)
    (hnames : ∀ attr ∈ layout.attributes, Text.isParameterName attr = true) {c : Member}
    (hrequired : c.required = layout.required) (hoptional : c.optional = layout.optional)
    (hrest : c.rest = layout.rest) : Parameter.WellFormed c.parameters := by
  have hattributes : c.parameters.map (·.name) = layout.attributes := by
    rw [c.map_name_parameters, Command.attributes_eq, hrequired, hoptional, hrest, attributes]
  refine ⟨hattributes ▸ hnodup, fun p hp => hnames _ (hattributes ▸ List.mem_map_of_mem hp), ?_, ?_⟩
  -- Only the parameter of the rest field, which is the last, can be given by name alone.
  · exact Command.pairwise_parameters (fun _ _ h => nomatch h) (fun _ _ h => nomatch h)
      fun _ _ _ _ h => nomatch h
  -- A default that is followed by a parameter belongs to an optional field.
  · refine Command.pairwise_parameters (fun _ _ h => nomatch h) (fun _ _ _ _ => rfl) ?_
    intro f hf r hr _ hposition
    refine RestField.parameter_default (fun hkind => ?_) hposition
    have hnil := (Layout.plain_eq_nil_of_delegates h (hrest ▸ hr) hkind).2
    rw [hoptional, hnil] at hf
    cases hf

/-! ## The law -/

namespace CommandType

/-- **A value that is read is that of a call** with the values of the plain tokens by position, and
that of the others by name, if there are any: whatever is left out has its default.  The parameters
of the call are a signature for every layout whose attributes can be their names. -/
theorem parse_eq_call :
    (∀ (t : CommandType) (token : String) (c : Member) (ts : List String) (v : Value), Built t →
      t.ResolvesTo token c → (∀ u, c.shared.lookup Command.makerName ≠ some (.type u)) →
      c.NestsTypes → c.ReadsRest → t.parse (.ofList (token :: ts)) = .ok v →
        ∃ args named, c.passed ts = .ok (args, named) ∧ (single c).call args named = .ok v) ∧
    ∀ (usage : Usage) (declared : List (String × Argument)) (delegates : Bool) (layout : Layout),
      Layout.of? usage declared delegates = .ok layout → layout.attributes.Nodup →
      (∀ attr ∈ layout.attributes, Text.isParameterName attr = true) →
      ∀ c : Member, c.required = layout.required → c.optional = layout.optional →
        c.rest = layout.rest → Parameter.WellFormed c.parameters := by
  constructor
  · intro t token c ts v ht h hmaker hnests hreads hv
    obtain ⟨ts', hread⟩ := parse_ofList_eq_ok_iff.1 hv
    rw [ht.readTokens_of_resolvesTo h] at hread
    exact Command.exists_call_of_fieldTokens (ht.fields_of_mem c h.mem).2
      (Command.makesOwn_of_lookup hmaker) hnests hreads hread
  · intro usage declared delegates layout h hnodup hnames c hrequired hoptional hrest
    exact Layout.wellFormed_parameters h hnodup hnames hrequired hoptional hrest

end CommandType

/-! ## Samples -/

namespace Sample

open CommandType
open Tinygit (declared declaration textField)

/-- A command whose required rest field comes after an optional one. -/
def pick : CommandType :=
  declared 0 (declaration .command "Pick"
    (some "`pick [a] <b...>` Pick.\n\n# Arguments\na: One.\nb: More.")
    [textField "a", textField "b"] false)

theorem built_pick : Built pick := Tinygit.built_declared fun _ hu => nomatch hu

/-- What is seen of its command. -/
theorem forall_mem_pick : pick.members ≠ [] ∧ ∀ c ∈ pick.members, c.name = "pick" ∧
    (∀ r ∈ c.rest, r.kind.foreign?.isNone = true ∧ r.standIn?.isNone = true) ∧
    (c.shared.lookup Command.makerName).isNone = true ∧
    (TokenReading.outcome (c.fieldTokens (fun u _ => u.readTokens) ["x", "y"])).toOption.map
      Value.shown = some "Pick(a='x', b=('y',))" ∧
    (c.passed ["x", "y"]).toOption.map (fun p => (p.1.length, p.2.length)) = some (1, 1) := by
  decide +kernel

theorem exists_of_map_shown {ε : Type} {result : Except ε Value} {text : String}
    (h : result.toOption.map Value.shown = some text) : ∃ v, result = .ok v ∧ v.shown = text := by
  obtain ⟨v, hv, hshown⟩ := Option.map_eq_some_iff.1 h
  exact ⟨v, except_toOption_eq_some_iff.1 hv, hshown⟩

/-- Its usage. -/
def pickUsage : Usage := ⟨["pick"], [], ["a"], some ⟨"b", true⟩, "Pick."⟩

/-- Its declarations. -/
def pickDeclared : List (String × Argument) :=
  [("a", ⟨.function .text, false⟩), ("b", ⟨.function .text, false⟩)]

/-- The layout of both. -/
def pickLayout : Layout := ⟨[], [⟨"a", "a", .text⟩], some ⟨"b", "b", true, .tokens .text⟩⟩

/-- `pick x y` is `Pick("x", b=("y",))`, and its parameters are those of a layout. -/
theorem parse_eq_call_pick :
    (∃ c v args named, Built pick ∧ pick.ResolvesTo "pick" c ∧ c.NestsTypes ∧
      c.ReadsRest ∧ pick.parse (.ofList ["pick", "x", "y"]) = .ok v ∧
      c.passed ["x", "y"] = .ok (args, named) ∧ args.length = 1 ∧ named.length = 1 ∧
      (single c).call args named = .ok v) ∧
    Layout.of? pickUsage pickDeclared false = .ok pickLayout ∧
      ∀ c : Member, c.required = pickLayout.required → c.optional = pickLayout.optional →
        c.rest = pickLayout.rest → Parameter.WellFormed c.parameters := by
  constructor
  · obtain ⟨c, hc, -, hreads, hmaker, hread, hpassed⟩ :=
      built_pick.exists_resolvesTo forall_mem_pick
    have hnests : c.NestsTypes := fun r hr => Option.isNone_iff_eq_none.1 (hreads r hr).1
    have hreads : c.ReadsRest := fun r hr => Option.isNone_iff_eq_none.1 (hreads r hr).2
    obtain ⟨v, hv, -⟩ := exists_of_map_shown hread
    have hparse := (built_pick.parse_of_resolvesTo hc ["x", "y"]).trans hv
    obtain ⟨args, named, h, hcall⟩ := parse_eq_call.1 pick "pick" c ["x", "y"] v built_pick hc
      (fun u hu => by rw [hu] at hmaker; cases hmaker) hnests hreads hparse
    rw [h] at hpassed
    obtain ⟨hargs, hnamed⟩ := Prod.mk.inj (Option.some.inj hpassed)
    exact ⟨c, v, args, named, built_pick, hc, hnests, hreads, hparse, h, hargs, hnamed, hcall⟩
  · exact ⟨rfl, parse_eq_call.2 pickUsage pickDeclared false pickLayout rfl (by decide +kernel)
      (by decide +kernel)⟩

/-! A class can stand in the place of the reader of a path. -/

/-- A class that is called in the place of the reader of a path that may be left out. -/
def pathReader : CommandType :=
  declared 0 (declaration .command "parse_path_opt"
    (some "`read <file>` Read.\n\n# Arguments\nfile: File.") [textField "file"] false)

/-- A family with such a member. -/
def places : CommandType :=
  declared 1 (declaration .family "Places" none [("parse_path_opt", .member pathReader)] false)

/-- A command that takes a path of the family. -/
def locate : CommandType :=
  declared 2 (declaration .command "Locate"
    (some "`locate [it...]` Locate.\n\n# Arguments\nit: Path.")
    [("it", .field ⟨.type places, true⟩)] false)

theorem built_locate : Built locate := by
  refine Tinygit.built_declared fun u hu => List.mem_singleton.1 hu ▸ ?_
  refine Tinygit.built_declared fun u hu => List.mem_singleton.1 hu ▸ ?_
  exact Tinygit.built_declared fun _ hu => nomatch hu

theorem forall_mem_locate : locate.members ≠ [] ∧ ∀ c ∈ locate.members, c.name = "locate" ∧
    c.subcommands?.isNone = true ∧
    (TokenReading.outcome (c.fieldTokens (fun u _ => u.readTokens) [])).toOption.map Value.shown
      = some "Locate(it=parse_path_opt(file=<Tokens>))" ∧
    (c.passed []).toOption.map (fun p => (p.1.length, p.2.length)) = some (0, 0) ∧
    ((single c).call [] []).toOption.map Value.shown = some "Locate(it=None)" := by
  decide +kernel

/-- **Another value can be read where a class replaces the reader of the path.**  Without a token
`locate` reads what the class makes of the stream, and a call without arguments gives no path. -/
theorem parse_ne_call : ∃ c v w, Built locate ∧ locate.ResolvesTo "locate" c ∧
    c.subcommands? = none ∧ locate.parse (.ofList ["locate"]) = .ok v ∧
    c.passed [] = .ok ([], []) ∧ (single c).call [] [] = .ok w ∧ v ≠ w := by
  obtain ⟨c, hc, -, hsubcommands, hread, hpassed, hcall⟩ :=
    built_locate.exists_resolvesTo forall_mem_locate
  obtain ⟨v, hv, hvshown⟩ := exists_of_map_shown hread
  obtain ⟨w, hw, hwshown⟩ := exists_of_map_shown hcall
  refine ⟨c, v, w, built_locate, hc, Option.isNone_iff_eq_none.1 hsubcommands,
    (built_locate.parse_of_resolvesTo hc []).trans hv, ?_, hw, fun h => ?_⟩
  · obtain ⟨⟨args, named⟩, hp, hlengths⟩ := Option.map_eq_some_iff.1 hpassed
    obtain ⟨hargs, hnamed⟩ := Prod.mk.inj hlengths
    obtain rfl := List.eq_nil_of_length_eq_zero hargs
    obtain rfl := List.eq_nil_of_length_eq_zero hnamed
    exact except_toOption_eq_some_iff.1 hp
  · rw [h, hwshown] at hvshown
    exact absurd hvshown (by decide)

end Sample

end CommandSpec
