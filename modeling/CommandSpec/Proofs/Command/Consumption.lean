import CommandSpec.Proofs.Command.Advances

/-!
# Proofs/Command/Consumption — what a reading leaves of a stream

A reading of a stream consumes its tokens in order (`Reading.Consumes`): a failure because of a
token leaves just what follows this token, and a failure for want of one leaves nothing.  This is
what advancing through lists says of streams (`consumes_of_follows`).  A success leaves nothing,
where each rest field is read by the method of its type (`Command.ReadsRest`).
-/

namespace CommandSpec

open TokenReading

/-! ## What is left of a reading that succeeds -/

/-- What stands in the place of the method that reads a rest field. -/
def RestField.standIn? (r : RestField CommandType) : Option (Shared CommandType) :=
  match r.kind with
  | .tokens _ | .foreign _ _ => none
  | .path u => u.instead? (pathMethod r.required)
  | .subcommand u => u.instead? "parse"

/-- A command whose rest field is read by the method of its type. -/
def Command.ReadsRest (c : Member) : Prop := ∀ r ∈ c.rest, r.standIn? = none

/-- Where nothing stands in the place of the methods of the nested type, the rest field is read by
one of them. -/
theorem Command.KeepsReaders.readsRest {c : Member} (h : c.KeepsReaders) : c.ReadsRest := by
  rintro ⟨name, attr, isRequired, kind⟩ hr
  cases kind with
  | tokens converter => rfl
  | path u =>
    have hkeeps := h u (CommandType.nested?_of_rest hr rfl)
    cases isRequired with
    | true => exact hkeeps.parsePath
    | false => exact hkeeps.parsePathOpt
  | subcommand u => exact (h u (CommandType.nested?_of_rest hr rfl)).parse
  | foreign isPath callable => rfl

theorem TokenReading.eq_nil_of_convertAll {cmd : FaultPart} {arg : String} {converter : Converter} :
    ∀ {ts ts' : List String} {vs : List Value},
      convertAll cmd arg converter ts = .ok vs ts' → ts' = []
  | [], _, _, h => by
    cases h
    rfl
  | token :: ts, ts', vs, h => by
    rw [convertAll] at h
    split at h
    · cases h
    · split at h
      · next hmore =>
        cases h
        exact eq_nil_of_convertAll hmore
      · cases h

/-- A rest field leaves nothing, if its method does not. -/
theorem Command.eq_nil_of_restValue {c : Member} {r : RestField CommandType} {ts ts' : List String}
    {v : Value} (hforeign : r.kind.foreign? = none) (hstandIn : r.standIn? = none)
    {nested : (u : CommandType) → r.kind.target? = some u → TokenReading Value}
    (hbuilt : ∀ u, r.kind.target? = some u → u.Built)
    (hnested : ∀ u hu ts ts' v, r.kind = .subcommand u → nested u hu ts = .ok v ts' → ts' = [])
    (h : c.restValue r nested ts = .ok v ts') : ts' = [] := by
  obtain ⟨name, attr, isRequired, kind⟩ := r
  cases kind with
  | tokens converter =>
    obtain ⟨vs, hvs, -⟩ := map_eq_ok_iff.1 h
    exact TokenReading.eq_nil_of_convertAll hvs
  | path u =>
    have hinstead : u.instead? (pathMethod isRequired) = none := hstandIn
    have h : u.pathFieldTokens isRequired ts = .ok v ts' := wrapping_eq_ok_iff.1 h
    rw [CommandType.pathFieldTokens, hinstead] at h
    cases isRequired with
    | true =>
      obtain ⟨p, hp, -⟩ := map_eq_ok_iff.1 h
      exact (CommandType.pathTokens_names (hbuilt u rfl) hp).1
    | false =>
      rcases CommandType.optionalPathTokens_eq_ok_iff.1 h with ⟨-, -, rfl⟩ | ⟨-, p, hp, -⟩
      · rfl
      · exact (CommandType.pathTokens_names (hbuilt u rfl) hp).1
  | subcommand u =>
    have hinstead : u.instead? "parse" = none := hstandIn
    rw [restValue_of_subcommand rfl, hinstead] at h
    exact hnested u rfl _ _ _ rfl (wrapping_eq_ok_iff.1 h)
  | foreign isPath callable => cases hforeign

/-- **A command that is read leaves nothing.** -/
theorem CommandType.eq_nil_of_readTokens {t : CommandType} (ht : Built t)
    (hnests : t.Throughout Command.NestsTypes) (hreads : t.Throughout Command.ReadsRest)
    {ts ts' : List String} {v : Value} (h : t.readTokens ts = .ok v ts') : ts' = [] := by
  obtain ⟨token, ts₁, i, rfl, -, -, -, -, hfields⟩ := readTokens_eq_ok_iff.1 h
  obtain ⟨_, _, _, _, _, -, -, hrest, -⟩ := Command.fieldTokens_eq_ok_iff.1 hfields
  have hmem := List.get_mem t.members i
  obtain hr | ⟨r, hr⟩ := Option.eq_none_or_eq_some (t.members.get i).rest
  · exact ((Command.restTokens_none_eq_ok_iff hr).1 hrest).2.2
  · obtain ⟨-, v, hv, -⟩ := (Command.restTokens_some_eq_ok_iff hr).1 hrest
    refine Command.eq_nil_of_restValue (hnests.of_mem hmem r hr) (hreads.of_mem hmem r hr)
      (fun u hu => ht.nested hmem (nested?_of_rest hr hu)) (fun u hu ts ts' v hkind hv => ?_) hv
    have hsub : (t.members.get i).subcommands? = some u := Command.subcommands?_of_rest hr hkind
    have : sizeOf u < sizeOf t := sizeOf_nested_lt hmem (nested?_of_rest hr hu)
    exact eq_nil_of_readTokens (ht.nested hmem (nested?_of_rest hr hu)) (hnests.nested hmem hsub)
      (hreads.nested hmem hsub) hv
termination_by sizeOf t

/-! ## Streams -/

namespace Reading

variable {α : Type}

/-- **A token decides the failure of a reading** that has some tokens before it. -/
structure DecidedBy (step : Reading α) (before : List String) (token : String) (e : Fault) :
    Prop where
  /-- It fails whatever follows the token, and this is left. -/
  fails : ∀ {s more}, s.tokens.Holds (before ++ token :: more) →
    ∃ s', step s = .error e s' ∧ s'.tokens.Holds more
  /-- It does not fail because of the tokens before. -/
  undecided : ∀ {s e' s'}, s.tokens.Holds before → step s = .error e' s' → e'.cause? ≠ some .token
  names : ∀ part ∈ e.token?, part = (token : FaultPart)

/-- **A reading consumes its tokens in order**, and none beyond the one that decides its failure. -/
structure Consumes (step : Reading α) : Prop where
  ok : ∀ {s ts a s'}, s.tokens.Holds ts → step s = .ok a s' →
    ∃ left, left <:+ ts ∧ s'.tokens.Holds left
  error : ∀ {s ts e s'}, s.tokens.Holds ts → step s = .error e s' →
    ∃ left, left <:+ ts ∧ s'.tokens.Holds left
  missing : ∀ {s ts e s'}, s.tokens.Holds ts → step s = .error e s' → e.cause? = some .missing →
    s'.tokens.Holds []
  token : ∀ {s ts e s'}, s.tokens.Holds ts → step s = .error e s' → e.cause? = some .token →
    ∃ before token left, ts = before ++ token :: left ∧ s'.tokens.Holds left ∧
      step.DecidedBy before token e

/-- **What advances through lists consumes streams in order.** -/
theorem consumes_of_follows {step : Reading α} {spec : TokenReading α} (h : Follows step spec)
    (hspec : ∀ ts, TokenReading.Advances spec ts) : step.Consumes where
  ok hs hstep := by
    obtain ⟨left, hleft, hs'⟩ := h.of_ok hs hstep
    obtain ⟨used, hused, -⟩ := (hspec _).ok hleft
    exact ⟨left, hused ▸ List.suffix_append used left, hs'⟩
  error hs hstep := by
    obtain ⟨left, hleft, hs'⟩ := h.of_error hs hstep
    exact ⟨left, (hspec _).error hleft, hs'⟩
  missing hs hstep hcause := by
    obtain ⟨left, hleft, hs'⟩ := h.of_error hs hstep
    exact (hspec _).missing hleft hcause ▸ hs'
  token hs hstep hcause := by
    obtain ⟨left, hleft, hs'⟩ := h.of_error hs hstep
    obtain ⟨before, token, hbefore, hagain, hnames⟩ := (hspec _).token hleft hcause
    refine ⟨before, token, left, hbefore, hs', fun hs => h.exists_error hs (hagain _), ?_, hnames⟩
    -- a failure because of an earlier token would leave more than this one does
    intro s₁ e₁ s₁' hs₁ hstep₁ hcause₁
    obtain ⟨left₁, hleft₁, -⟩ := h.of_error hs₁ hstep₁
    obtain ⟨before₁, token₁, rfl, hagain₁, -⟩ := (hspec _).token hleft₁ hcause₁
    have hearlier := hagain₁ (left₁ ++ token :: left)
    have hlater := hagain left
    rw [List.append_assoc, List.cons_append, hearlier] at hlater
    have hlength := congrArg List.length (EStateM.Result.error.inj hlater).2
    rw [List.length_append, List.length_cons] at hlength
    omega

end Reading

/-! ## The law -/

namespace CommandType

variable {t : CommandType}

/-- **A reading of a command or a path consumes its tokens in order.**  A failure for want of a
token leaves nothing; a failure because of a token leaves just what follows that token; and a
success leaves nothing, where each rest field is read by the method of its type.  Commands must be
handed to types, since what else has a method may fail as it likes. -/
theorem read_consumption (ht : Built t) :
    t.readPath.Consumes ∧
    (∀ {s ts p s'}, s.tokens.Holds ts → t.readPath s = .ok p s' → s'.tokens.Holds []) ∧
    (t.Throughout Command.NestsTypes → t.read.Consumes ∧
      (t.Throughout Command.ReadsRest → ∀ {s ts v s'}, s.tokens.Holds ts → t.read s = .ok v s' →
        s'.tokens.Holds [])) := by
  refine ⟨Reading.consumes_of_follows t.follows_readPath t.advances_pathTokens, fun hs hread => ?_,
    fun hnests => ⟨Reading.consumes_of_follows t.follows_read (advances_readTokens hnests),
      fun hreads s ts v s' hs hread => ?_⟩⟩
  · obtain ⟨left, hleft, hs'⟩ := t.follows_readPath.of_ok hs hread
    exact (pathTokens_names ht hleft).1 ▸ hs'
  · obtain ⟨left, hleft, hs'⟩ := t.follows_read.of_ok hs hread
    exact eq_nil_of_readTokens ht hnests hreads hleft ▸ hs'

end CommandType

/-! ## Samples -/

namespace Sample

open CommandType
open Tinygit (declared declaration textField)

/-- A command that can stand in the place of a reader: it is called with the stream. -/
def reader : CommandType :=
  declared 0 (declaration .command "parse" (some "`read <file>` Read.\n\n# Arguments\nfile: File.")
    [textField "file"] false)

theorem isOrdinary_reader : Tinygit.IsOrdinary reader := by
  refine Tinygit.isOrdinary_declared (Tinygit.takesTexts_of_fields ["file"] rfl)
    (Tinygit.nestsTypes_of_fields ["file"] rfl) ⟨rfl, rfl, rfl, rfl⟩ fun u hu => ?_
  cases hu

theorem built_reader : Built reader := isOrdinary_reader.built

/-- A stream that has been looked at holds the token that has been seen. -/
def lookedAt : ReadState :=
  ⟨⟨some "read", [[.ok "x", .ok "extra", .ok "more"]], false⟩, []⟩

/-- Its commands take one token, a file. -/
theorem forall_mem_reader : reader.members ≠ [] ∧ ∀ c ∈ reader.members, c.name = "read" ∧
    c.rest.isNone = true ∧ c.required.length = 1 ∧ c.plain.length = 1 ∧ c.IsFree ∧
    Takers.AcceptAll c.taker? ["x", "extra", "more"] ∧ Takers.AcceptAll c.taker? ["x"] := by
  decide +kernel

theorem readsRest_reader : reader.Throughout Command.ReadsRest :=
  isOrdinary_reader.below.mono fun _ h => h.readsRest

/-- What is read from lists: the token `extra` is one too many after `read x`. -/
theorem readTokens_reader :
    reader.readTokens ["read", "x", "extra", "more"]
      = .error (.trailingArgument "read" "extra") ["more"] ∧
    ∃ v, reader.readTokens ["read", "x"] = .ok v [] := by
  obtain ⟨c, hc, hname, hrest, hrequired, hplain, hfree, hlong, hshort⟩ :=
    built_reader.exists_resolvesTo forall_mem_reader
  rw [Option.isNone_iff_eq_none] at hrest
  have hcalled : c.called = ("read" : FaultPart) :=
    hname ▸ (built_reader.isDeclared c hc.mem).called_eq
  have hconverts : c.IsPlain := Command.isPlain_of_rest_eq_none hrest
  have hmake : c.make (c.values ["x"]) = .ok (.command c.id (c.values ["x"])) :=
    Command.make_eq hfree fun f hf => c.map_fst_values hconverts _ ▸ List.mem_map_of_mem hf
  refine ⟨?_, .command c.id (c.values ["x"]), ?_⟩
  · rw [built_reader.readTokens_of_resolvesTo hc,
      Command.fieldTokens_of_trailing hlong hrest (by simp [hplain])]
    simp [hplain, hcalled]
  · rw [built_reader.readTokens_of_resolvesTo hc, Command.fieldTokens_of_acceptAll hshort hconverts
      hrequired.le (fun _ => hplain.ge) (fun r hr => by rw [hrest] at hr; cases hr), hmake]
    rfl

/-- After `read x`, the token `extra` is one too many, and `more` is left; `read x` by itself leaves
nothing. -/
theorem read_consumption_reader : Built reader ∧
    (∃ s s', reader.read lookedAt = .error (.trailingArgument "read" "extra") s ∧
      s.tokens.drain = (.ok ["more"], s')) ∧
    reader.Throughout Command.NestsTypes ∧ reader.Throughout Command.ReadsRest ∧
    ∃ v s s', reader.read ⟨.ofList ["read", "x"], []⟩ = .ok v s ∧
      s.tokens.drain = (.ok [], s') := by
  obtain ⟨hconsumes, hexhausts⟩ := (read_consumption built_reader).2.2 isOrdinary_reader.nests
  obtain ⟨htrailing, v, hvalue⟩ := readTokens_reader
  refine ⟨built_reader, ?_, isOrdinary_reader.nests, readsRest_reader, v, ?_⟩
  · have hs : lookedAt.tokens.Holds ["read", "x", "extra", "more"] := rfl
    obtain ⟨s, hread, -⟩ := reader.follows_read.exists_error hs htrailing
    obtain ⟨before, token, left, hbefore, hleft, hdecided⟩ := hconsumes.token hs hread rfl
    obtain rfl : token = "extra" := by
      cases hdecided.names "extra" rfl
      rfl
    obtain ⟨-, rfl⟩ : before = ["read", "x"] ∧ left = ["more"] := by
      simpa [List.cons_eq_append_iff] using hbefore
    obtain ⟨s', hdrain, -⟩ := hleft.drain
    exact ⟨s, s', hread, hdrain⟩
  · have hs : (Tokens.ofList ["read", "x"]).Holds ["read", "x"] := rfl
    obtain ⟨s, hread, -⟩ :=
      reader.follows_read.exists_ok (s := ⟨.ofList ["read", "x"], []⟩) hs hvalue
    obtain ⟨s', hdrain, -⟩ := (hexhausts readsRest_reader hs hread).drain
    exact ⟨s, s', hread, hdrain⟩

/-- A family with a member of that name. -/
def files : CommandType :=
  declared 1 (declaration .family "Files" none [("parse", .member reader)] false)

theorem built_files : Built files := by
  refine Tinygit.built_declared fun u hu => ?_
  exact List.mem_singleton.1 hu ▸ built_reader

/-- A command that takes one of the family. -/
def doing : CommandType := nesting 2 "Do" "`do [it...]` Do.\n\n# Arguments\nit: Command." files []

theorem built_doing : Built doing := built_nesting built_files

theorem shape_doing : shape doing = [("do", true, some ("it", "it", false))] := by decide +kernel

/-- The member stands in the place of the reader of the family. -/
theorem instead?_files : files.instead? "parse" = some (.type reader) :=
  Tinygit.instead?_declared (by decide +kernel) rfl
    (fun kind => BodyEntry.sharedBy?_member kind reader) (by decide)

/-- Whether a value is one of a command that does not delegate. -/
def isLast : Value → Bool
  | .command id _ => !id.delegates
  | _ => false

theorem exists_of_isLast {v : Value} (h : isLast v = true) :
    ∃ id fields, id.delegates = false ∧ v = .command id fields := by
  unfold isLast at h
  split at h
  · next id fields => exact ⟨id, fields, by simpa using h, rfl⟩
  · cases h

/-- It can be called with a stream, and makes a value of its own without reading it. -/
theorem exists_call_reader : ∃ id fields, id.delegates = false ∧
    (Shared.type reader).call [.thing Tokens.kindName 0] = .ok (.command id fields) := by
  have hmade : ((Shared.type reader).call [.thing Tokens.kindName 0]).toOption.map isLast
      = some true := by decide +kernel
  obtain ⟨v, hv, hlast⟩ := Option.map_eq_some_iff.1 hmade
  obtain ⟨id, fields, hid, rfl⟩ := exists_of_isLast hlast
  exact ⟨id, fields, hid, except_toOption_eq_some_iff.1 hv⟩

/-- So the tokens after the name are left where the command is read from a list. -/
theorem exists_readTokens_doing :
    ∃ v, doing.readTokens ["do", "read", "x"] = .ok v ["read", "x"] := by
  obtain ⟨d, hresolves, htarget, hfree, -⟩ := exists_delegate_nesting built_doing shape_doing
  obtain ⟨hrequired, hoptional⟩ :=
    (built_doing.isDeclared _ hresolves.mem).plain_eq_nil d.field d.rest_eq d.target d.kind_eq
  obtain ⟨id, fields, -, hv⟩ := exists_call_reader
  have hvalue : d.command.restValue d.field (fun u _ => u.readTokens) ["read", "x"]
      = .ok (.command id fields) ["read", "x"] := by
    rw [Command.restValue_of_subcommand d.kind_eq, htarget, instead?_files]
    dsimp only
    rw [TokenReading.instead, hv]
    rfl
  have hrest : d.command.restTokens (fun u _ => u.readTokens) ["read", "x"]
      = .ok [(d.field.attr, .command id fields)] ["read", "x"] := by
    rw [Command.restTokens_eq_of_some d.rest_eq, if_neg (fun h => List.cons_ne_nil _ _ h.1),
      map_of_ok hvalue]
  refine ⟨d.wrapValue (.command id fields), ?_⟩
  rw [built_doing.readTokens_of_resolvesTo hresolves,
    Command.fieldTokens_of_nil hrequired hoptional, bind_of_ok hrest, Delegate.make_eq hfree]
  rfl

theorem nestsTypes_doing : doing.Throughout Command.NestsTypes :=
  nestsTypes_nesting (Tinygit.throughout_declared (fun m => m.nestsTypes fun attr a f ha => by
    cases List.mem_singleton.1 ha) fun u hu => List.mem_singleton.1 hu ▸ isOrdinary_reader.nests)

/-- **A reading can succeed and leave tokens**, where a member stands in the place of a reader. -/
theorem read_doing : ∃ v s s', Built doing ∧ doing.Throughout Command.NestsTypes ∧
    doing.read ⟨.ofList ["do", "read", "x"], []⟩ = .ok v s ∧
    s.tokens.drain = (.ok ["read", "x"], s') := by
  obtain ⟨v, hvalue⟩ := exists_readTokens_doing
  have hs : (Tokens.ofList ["do", "read", "x"]).Holds ["do", "read", "x"] := rfl
  obtain ⟨s, hread, hleft⟩ :=
    doing.follows_read.exists_ok (s := ⟨.ofList ["do", "read", "x"], []⟩) hs hvalue
  obtain ⟨s', hdrain, -⟩ := hleft.drain
  exact ⟨v, s, s', built_doing, nestsTypes_doing, hread, hdrain⟩

end Sample

end CommandSpec
