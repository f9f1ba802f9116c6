import CommandSpec.Proofs.Command.Arity
import CommandSpec.Proofs.Command.Delegation

/-!
# Proofs/Command/Advances — readings from lists go forward

A reading **advances** through a list of tokens (`Advances`): what it leaves is the end of the list;
where it fails for want of a token, nothing is left; and where it fails because of a token, it has
consumed this token and those before it alone, so that it fails in the same way whatever follows.
Readers advance because their steps do and steps that advance can be put together
(`advances_pathTokens`, `advances_readTokens`).
-/

namespace CommandSpec

/-! ## What a failure is due to -/

/-- What a reading can fail for: there is no token, or there is one that does not fit. -/
inductive FailureCause where
  | missing | token
  deriving DecidableEq, Repr

namespace Fault

/-- **What a fault of a reading is due to.**  A subcommand fails for the cause of its own fault, and
what comes from elsewhere has none. -/
def cause? : Fault → Option FailureCause
  | noInput | missingRequired _ _ | incompletePath _ => some .missing
  | badId _ | badPathId _ | badConvert _ _ _ | trailingArgument _ _ | trailingPath _ => some .token
  | subcommand _ e => e.cause?
  | _ => none

/-- The token that a fault names. -/
def token? : Fault → Option FaultPart
  | noMatch given _ | ambiguousId _ given => some given
  | badId e | badPathId e | subcommand _ e => e.token?
  | trailingArgument _ extra | trailingPath extra => some extra
  | _ => none

end Fault

namespace TokenReading

variable {α β : Type}

/-- **A step advances through a list of tokens.** -/
structure Advances (step : TokenReading α) (ts : List String) : Prop where
  /-- What is left is the end of the list, and what is left plays no part in the value, unless there
  is nothing. -/
  ok : ∀ {a ts'}, step ts = .ok a ts' → ∃ used, ts = used ++ ts' ∧
    (ts' ≠ [] → ∀ more, more ≠ [] → step (used ++ more) = .ok a more)
  error : ∀ {e ts'}, step ts = .error e ts' → ts' <:+ ts
  missing : ∀ {e ts'}, step ts = .error e ts' → e.cause? = some .missing → ts' = []
  /-- A token that does not fit is the last one that is consumed, and decides the failure. -/
  token : ∀ {e ts'}, step ts = .error e ts' → e.cause? = some .token →
    ∃ before token, ts = before ++ token :: ts' ∧
      (∀ more, step (before ++ token :: more) = .error e more) ∧
      ∀ part ∈ e.token?, part = (token : FaultPart)

section Advancing

variable {step : TokenReading α} {ts : List String} {token : String} {e : Fault}

/-- A step that does not look at its tokens advances, if it does not blame them. -/
theorem advances_pure (a : α) : Advances (pure a) ts where
  ok := by
    rintro a' ts' ⟨⟩
    exact ⟨[], rfl, fun _ _ _ => rfl⟩
  error h := nomatch h
  missing h := nomatch h
  token h := nomatch h

theorem advances_throw (he : e.cause? = none) : Advances (throw e : TokenReading α) ts where
  ok h := nomatch h
  error := by
    rintro e' ts' ⟨⟩
    exact List.suffix_rfl
  missing := by
    rintro e' ts' ⟨⟩ h
    rw [he] at h
    cases h
  token := by
    rintro e' ts' ⟨⟩ h
    rw [he] at h
    cases h

/-- Without tokens, only a failure because of a token must be excluded. -/
theorem advances_nil (hok : ∀ a ts', step [] = .ok a ts' → ts' = [])
    (herror : ∀ e ts', step [] = .error e ts' → ts' = [] ∧ e.cause? ≠ some .token) :
    Advances step [] where
  ok h := ⟨[], (hok _ _ h).symm, fun hne => absurd (hok _ _ h) hne⟩
  error h := (herror _ _ h).1 ▸ List.suffix_rfl
  missing h _ := (herror _ _ h).1
  token h hcause := absurd hcause (herror _ _ h).2

/-- A token that is refused whatever follows is the last one that is consumed. -/
theorem advances_refuse (h : ∀ more, step (token :: more) = .error e more)
    (hcause : e.cause? = some .token) (hnames : ∀ part ∈ e.token?, part = (token : FaultPart)) :
    Advances step (token :: ts) where
  ok hok := by
    rw [h] at hok
    cases hok
  error herror := by
    rw [h] at herror
    cases herror
    exact List.suffix_cons token ts
  missing herror hmissing := by
    rw [h] at herror
    cases herror
    rw [hcause] at hmissing
    cases hmissing
  token herror _ := by
    rw [h] at herror
    cases herror
    exact ⟨[], token, rfl, h, hnames⟩

/-- A step that consumes a token and then goes on like another advances like it. -/
theorem Advances.cons {next : TokenReading α} (hnext : Advances next ts)
    (h : ∀ more, step (token :: more) = next more) : Advances step (token :: ts) where
  ok hok := by
    rw [h] at hok
    obtain ⟨used, hused, hagain⟩ := hnext.ok hok
    refine ⟨token :: used, congrArg (token :: ·) hused, fun hne more hmore => ?_⟩
    exact (h _).trans (hagain hne more hmore)
  error herror := by
    rw [h] at herror
    exact (hnext.error herror).trans (List.suffix_cons token ts)
  missing herror := by
    rw [h] at herror
    exact hnext.missing herror
  token herror hcause := by
    rw [h] at herror
    obtain ⟨before, culprit, hbefore, hagain, hnames⟩ := hnext.token herror hcause
    refine ⟨token :: before, culprit, congrArg (token :: ·) hbefore, fun more => ?_, hnames⟩
    exact (h _).trans (hagain more)

/-- A step that goes on like another while there are tokens advances like it. -/
theorem Advances.of_ne_nil {next : TokenReading α} (hnext : Advances next ts) (hts : ts ≠ [])
    (h : ∀ more, more ≠ [] → step more = next more) : Advances step ts where
  ok hok := by
    rw [h ts hts] at hok
    obtain ⟨used, hused, hagain⟩ := hnext.ok hok
    refine ⟨used, hused, fun hne more hmore => ?_⟩
    exact (h _ (List.append_ne_nil_of_right_ne_nil used hmore)).trans (hagain hne more hmore)
  error herror := by
    rw [h ts hts] at herror
    exact hnext.error herror
  missing herror := by
    rw [h ts hts] at herror
    exact hnext.missing herror
  token herror hcause := by
    rw [h ts hts] at herror
    obtain ⟨before, culprit, hbefore, hagain, hnames⟩ := hnext.token herror hcause
    refine ⟨before, culprit, hbefore, fun more => ?_, hnames⟩
    exact (h _ (List.append_ne_nil_of_right_ne_nil before (List.cons_ne_nil _ _))).trans
      (hagain more)

/-- Without tokens, what a step does then is all that counts. -/
theorem Advances.of_nil {next : TokenReading α} (hnext : Advances next []) (h : step [] = next []) :
    Advances step [] := by
  refine advances_nil (fun a ts' hok => ?_) fun e ts' herror => ?_
  · obtain ⟨used, hused, -⟩ := hnext.ok (h ▸ hok)
    exact (List.append_eq_nil_iff.1 hused.symm).2
  · rw [h] at herror
    refine ⟨List.suffix_nil.1 (hnext.error herror), fun hcause => ?_⟩
    obtain ⟨before, culprit, hbefore, -⟩ := hnext.token herror hcause
    exact absurd hbefore.symm (List.append_ne_nil_of_right_ne_nil before (List.cons_ne_nil _ _))

/-- **Steps that advance can be put together.** -/
theorem Advances.bind (hstep : Advances step ts) {next : α → TokenReading β}
    (hnext : ∀ a ts', step ts = .ok a ts' → Advances (next a) ts') :
    Advances (step >>= next) ts where
  ok hok := by
    obtain ⟨a, ts₁, ha, hb⟩ := bind_eq_ok_iff.1 hok
    obtain ⟨used₁, rfl, hagain₁⟩ := hstep.ok ha
    obtain ⟨used₂, rfl, hagain₂⟩ := (hnext a _ ha).ok hb
    refine ⟨used₁ ++ used₂, (List.append_assoc ..).symm, fun hne more hmore => ?_⟩
    have hfirst := hagain₁ (List.append_ne_nil_of_right_ne_nil used₂ hne) (used₂ ++ more)
      (List.append_ne_nil_of_right_ne_nil used₂ hmore)
    rw [List.append_assoc]
    exact (bind_of_ok hfirst).trans (hagain₂ hne more hmore)
  error herror := by
    rcases bind_eq_error_iff.1 herror with he | ⟨a, ts₁, ha, he⟩
    · exact hstep.error he
    · obtain ⟨used, rfl, -⟩ := hstep.ok ha
      exact ((hnext a _ ha).error he).trans (List.suffix_append used ts₁)
  missing herror hcause := by
    rcases bind_eq_error_iff.1 herror with he | ⟨a, ts₁, ha, he⟩
    · exact hstep.missing he hcause
    · exact (hnext a _ ha).missing he hcause
  token herror hcause := by
    rcases bind_eq_error_iff.1 herror with he | ⟨a, ts₁, ha, he⟩
    · obtain ⟨before, culprit, hbefore, hagain, hnames⟩ := hstep.token he hcause
      exact ⟨before, culprit, hbefore, fun more => bind_of_error (hagain more), hnames⟩
    · obtain ⟨used, rfl, hused⟩ := hstep.ok ha
      obtain ⟨before, culprit, rfl, hagain, hnames⟩ := (hnext a _ ha).token he hcause
      have hfirst := hused (List.append_ne_nil_of_right_ne_nil before (List.cons_ne_nil _ _))
      refine ⟨used ++ before, culprit, (List.append_assoc ..).symm, fun more => ?_, hnames⟩
      rw [List.append_assoc]
      exact (bind_of_ok (hfirst _ (List.append_ne_nil_of_right_ne_nil before
        (List.cons_ne_nil _ _)))).trans (hagain more)

theorem Advances.map (hstep : Advances step ts) (f : α → β) : Advances (f <$> step) ts := by
  rw [map_eq_pure_bind]
  exact hstep.bind fun a _ _ => advances_pure (f a)

/-- A failure without tokens is none because of a token. -/
theorem Advances.nil_error (h : step [] = .error e []) (he : e.cause? ≠ some .token) :
    Advances step [] := by
  refine advances_nil (fun a ts' hok => ?_) fun e' ts' herror => ?_
  · rw [h] at hok
    cases hok
  · rw [h] at herror
    cases herror
    exact ⟨rfl, he⟩

end Advancing

/-! ## Steps -/

section Steps

variable {ts : List String}

theorem advances_check {ε : Type} {fault : ε → Fault} (hfault : ∀ e, (fault e).cause? = none)
    (result : Except ε α) : Advances (check fault result) ts := by
  cases result with
  | ok a => exact advances_pure a
  | error e => exact advances_throw (hfault e)

theorem advances_ask (c : Member) (asked : Asked) : Advances (ask c asked) ts := by
  rw [ask]
  cases c.fault? asked with
  | none => exact advances_pure ()
  | some e => exact advances_throw rfl

theorem advances_instead (s : Shared CommandType) : Advances (instead s) ts :=
  advances_check (fun _ => rfl) _

theorem wrapping_of_error {step : TokenReading α} {belongs : Fault → Bool} {wrap : Fault → Fault}
    {e : Fault} {ts' : List String} (h : step ts = .error e ts') :
    wrapping belongs wrap step ts = .error (if belongs e then wrap e else e) ts' := by
  rw [wrapping, h]

/-- A fault that does not belong passes as it is. -/
theorem wrapping_of_other {step : TokenReading α} {belongs : Fault → Bool} {wrap : Fault → Fault}
    {e : Fault} {ts' : List String} (h : step ts = .error e ts') (he : belongs e = false) :
    wrapping belongs wrap step ts = .error e ts' := by
  rw [wrapping_of_error h, if_neg (Bool.eq_false_iff.1 he)]

/-- A fault that is wrapped comes from one of the step. -/
theorem exists_of_wrapping {step : TokenReading α} {belongs : Fault → Bool} {wrap : Fault → Fault}
    {e : Fault} {ts' : List String} (h : wrapping belongs wrap step ts = .error e ts') :
    ∃ e', step ts = .error e' ts' ∧ (if belongs e' then wrap e' else e') = e := by
  rw [wrapping] at h
  cases hstep : step ts with
  | ok a ts₁ =>
    rw [hstep] at h
    cases h
  | error e' ts₁ =>
    rw [hstep] at h
    cases h
    exact ⟨e', rfl, rfl⟩

/-- To wrap faults without changing what they are due to changes nothing. -/
theorem Advances.wrapping {step : TokenReading α} (hstep : Advances step ts)
    {belongs : Fault → Bool} {wrap : Fault → Fault}
    (hcause : ∀ e ts', step ts = .error e ts' → belongs e = true → (wrap e).cause? = e.cause?)
    (htoken : ∀ e, ∀ part ∈ (wrap e).token?, part ∈ e.token?) :
    Advances (wrapping belongs wrap step) ts := by
  have hsame : ∀ e ts', step ts = .error e ts' →
      (if belongs e then wrap e else e).cause? = e.cause? := fun e ts' he => by
    split
    · next hbelongs => exact hcause e ts' he hbelongs
    · rfl
  refine ⟨fun hok => ?_, fun herror => ?_, fun herror hmissing => ?_, fun herror hculprit => ?_⟩
  · obtain ⟨used, hused, hagain⟩ := hstep.ok (wrapping_eq_ok_iff.1 hok)
    exact ⟨used, hused, fun hne more hmore => wrapping_eq_ok_iff.2 (hagain hne more hmore)⟩
  · obtain ⟨e, he, rfl⟩ := exists_of_wrapping herror
    exact hstep.error he
  · obtain ⟨e, he, rfl⟩ := exists_of_wrapping herror
    exact hstep.missing he ((hsame e _ he).symm.trans hmissing)
  · obtain ⟨e, he, rfl⟩ := exists_of_wrapping herror
    obtain ⟨before, culprit, hbefore, hagain, hnames⟩ :=
      hstep.token he ((hsame e _ he).symm.trans hculprit)
    refine ⟨before, culprit, hbefore, fun more => wrapping_of_error (hagain more),
      fun part hpart => ?_⟩
    split at hpart
    · exact hnames part (htoken e part hpart)
    · exact hnames part hpart

variable {cmd : FaultPart}

/-- Fields that take a token each advance, if they do so where there is none. -/
theorem TakesInTurn.advances {read : List PlainField → TokenReading (List (String × Value))}
    (hread : TakesInTurn cmd read) (hnone : ∀ ts, Advances (read []) ts)
    (hnil : ∀ f fs, Advances (read fs) [] → Advances (read (f :: fs)) []) :
    ∀ (fs : List PlainField) (ts : List String), Advances (read fs) ts
  | [], ts => hnone ts
  | f :: fs, [] => hnil f fs (hread.advances hnone hnil fs [])
  | f :: fs, token :: ts => by
    obtain haccepts | ⟨e, hrefuses⟩ := f.accepts_or_refuses token
    · exact ((hread.advances hnone hnil fs ts).map _).cons fun more => hread.accepts haccepts
    · exact advances_refuse (fun more => hread.refuses hrefuses) rfl (by rintro _ ⟨⟩)

theorem advances_required (fs : List PlainField) (ts : List String) :
    Advances (required cmd fs) ts :=
  (takesInTurn_required cmd).advances (fun _ => advances_pure [])
    (fun _ _ _ => .nil_error rfl (by rintro ⟨⟩)) fs ts

theorem advances_optional (fs : List PlainField) (ts : List String) :
    Advances (optional cmd fs) ts :=
  (takesInTurn_optional cmd).advances (fun _ => advances_pure [])
    (fun f _ h => (h.map ((f.attr, .none) :: ·)).of_nil rfl) fs ts

theorem advances_convertAll (f : PlainField) :
    ∀ ts : List String, Advances (convertAll cmd f.name f.converter) ts
  | [] => advances_nil (by rintro a ts' ⟨⟩; rfl) (by rintro _ _ ⟨⟩)
  | token :: ts => by
    obtain haccepts | ⟨e, hrefuses⟩ := f.accepts_or_refuses token
    · refine ((advances_convertAll f ts).map (f.value token :: ·)).cons fun more => ?_
      rw [convertAll, haccepts]
      dsimp only
      cases h : convertAll cmd f.name f.converter more with
      | ok vs ts' => rw [map_of_ok h]
      | error e ts' => rw [map_of_error h]
    · have hagain : ∀ more, convertAll cmd f.name f.converter (token :: more)
          = .error (.badConvert cmd f.name e) more := fun more => by
        rw [convertAll, hrefuses]
      exact advances_refuse hagain rfl (by rintro _ ⟨⟩)

end Steps

end TokenReading

open TokenReading

/-! ## Paths -/

section Paths

variable {ts : List String}

theorem Command.advances_belowTokens (c : Member)
    {nested : (u : CommandType) → c.subcommands? = some u → TokenReading CommandPath}
    (hnested : ∀ u hu ts, Advances (nested u hu) ts) : Advances (c.belowTokens nested) ts := by
  obtain hu | ⟨u, hu⟩ := Option.eq_none_or_eq_some c.subcommands?
  · obtain hforeign | ⟨callable, hforeign⟩ := Option.eq_none_or_eq_some c.foreign?
    · rw [belowTokens_of_none hu hforeign]
      cases ts with
      | nil => exact (advances_pure []).of_nil rfl
      | cons token ts =>
        exact advances_refuse (fun _ => rfl) rfl fun part h => (Option.some.inj h).symm
    · rw [belowTokens_of_foreign hforeign]
      cases ts with
      | nil => exact (advances_pure []).of_nil rfl
      | cons token ts =>
        exact (advances_throw (e := (callable.lacks "__trie__").fault) rfl).cons fun _ => rfl
  · rw [belowTokens_of_some hu]
    cases ts with
    | nil => exact (advances_pure []).of_nil rfl
    | cons token ts =>
      refine ((hnested u hu (token :: ts)).map CommandPath.ids).of_ne_nil (List.cons_ne_nil _ _) ?_
      intro more hmore
      cases more with
      | nil => exact absurd rfl hmore
      | cons next more => rfl

namespace CommandType

variable {t : CommandType} {token : String}

/-- A token that does not resolve is named by the fault. -/
theorem names_of_resolve {e : Fault} (h : t.resolve token = .error e) :
    ∀ part ∈ e.token?, part = (token : FaultPart) := by
  rintro part hpart
  obtain rfl | ⟨candidates, rfl⟩ := Trie.error_of_lookup h
  · exact (Option.some.inj hpart).symm
  · exact (Option.some.inj hpart).symm

/-- A reading that opens with the name of a command advances if it does after the name. -/
theorem advances_opened {α : Type} {missing : Fault} {unknown : Fault → Fault}
    {go : Fin t.members.length → TokenReading α} (hmissing : missing.cause? ≠ some .token)
    (hunknown : ∀ e, (unknown e).cause? = some .token ∧ (unknown e).token? = e.token?)
    (hgo : ∀ i ts, Advances (go i) ts) :
    Advances (do
      match ← TokenReading.next with
      | none => throw missing
      | some token =>
        if t.isRoot then throw (t.noAttr "__trie__")
        else match t.resolve token with
          | .error e => throw (unknown e)
          | .ok i => go i : TokenReading α) ts := by
  cases ts with
  | nil => exact .nil_error rfl hmissing
  | cons token ts =>
    have hnext : ∀ more, TokenReading.next (token :: more) = .ok (some token) more := fun _ => rfl
    cases hroot : t.isRoot with
    | true =>
      exact (advances_throw (e := t.noAttr "__trie__") rfl).cons fun more => bind_of_ok (hnext more)
    | false =>
      cases hi : t.resolve token with
      | error e =>
        refine advances_refuse (fun more => ?_) (hunknown e).1 fun part hpart => ?_
        · rw [bind_of_ok (hnext more)]
          dsimp only
          rw [hi]
          rfl
        · exact names_of_resolve hi part ((hunknown e).2 ▸ hpart)
      | ok i =>
        refine (hgo i ts).cons fun more => ?_
        rw [bind_of_ok (hnext more)]
        dsimp only
        rw [hi]
        rfl

theorem cause?_incompletePath (t : CommandType) : t.incompletePath.cause? ≠ some .token := by
  rw [incompletePath]
  split
  · rintro ⟨⟩
  · split
    all_goals rintro ⟨⟩

/-- **A path advances through its tokens.** -/
theorem advances_pathTokens (t : CommandType) (ts : List String) : Advances t.pathTokens ts := by
  rw [pathTokens]
  refine advances_opened t.cause?_incompletePath (fun _ => ⟨rfl, rfl⟩) fun i ts => ?_
  refine (advances_ask _ .delegation).bind fun _ ts _ => ?_
  refine ((t.members.get i).advances_belowTokens fun u hu ts => ?_).bind fun below _ _ =>
    advances_pure _
  have : sizeOf u < sizeOf t :=
    sizeOf_nested_lt (List.get_mem t.members i) (nested?_of_subcommands? hu)
  exact advances_pathTokens u ts
termination_by sizeOf t

theorem isPathFault_of_ask {c : Member} {asked : Asked} {ts ts' : List String} {e : Fault}
    (h : TokenReading.ask c asked ts = .error e ts') : e.isPathFault = false := by
  rw [TokenReading.ask] at h
  cases hfault : c.fault? asked with
  | none =>
    rw [hfault] at h
    cases h
  | some m =>
    rw [hfault] at h
    cases h
    rfl

/-- What follows the name of a command in a path fails because of a token, if nested paths do. -/
theorem cause?_of_belowTokens {c : Member} {ts ts' : List String} {e : Fault}
    {nested : (u : CommandType) → c.subcommands? = some u → TokenReading CommandPath}
    (hnested : ∀ u hu ts, ts ≠ [] → nested u hu ts = .error e ts' → e.cause? = some .token)
    (h : c.belowTokens nested ts = .error e ts') (hpath : e.isPathFault = true) :
    e.cause? = some .token := by
  obtain hu | ⟨u, hu⟩ := Option.eq_none_or_eq_some c.subcommands?
  · obtain hforeign | ⟨callable, hforeign⟩ := Option.eq_none_or_eq_some c.foreign?
    · rw [Command.belowTokens_of_none hu hforeign] at h
      cases ts with
      | nil => cases h
      | cons extra ts =>
        cases h
        rfl
    · rw [Command.belowTokens_of_foreign hforeign] at h
      cases ts with
      | nil => cases h
      | cons extra ts =>
        cases h
        cases hpath
  · rw [Command.belowTokens_of_some hu] at h
    cases ts with
    | nil => cases h
    | cons next ts => exact hnested u hu _ (List.cons_ne_nil next ts) (map_eq_error_iff.1 h)

/-- **Where there is a token, a path fails because of one**, or for what has nothing to do with
paths. -/
theorem cause?_of_pathTokens {t : CommandType} {ts ts' : List String} {e : Fault} (hts : ts ≠ [])
    (h : t.pathTokens ts = .error e ts') (hpath : e.isPathFault = true) :
    e.cause? = some .token := by
  obtain ⟨token, ts, rfl⟩ := List.exists_cons_of_ne_nil hts
  have hnext : TokenReading.next (token :: ts) = .ok (some token) ts := rfl
  rw [pathTokens, bind_of_ok hnext] at h
  dsimp only at h
  split at h
  · cases h
    cases hpath
  cases hi : t.resolve token with
  | error e' =>
    rw [hi] at h
    cases h
    rfl
  | ok i =>
  rw [hi] at h
  rcases bind_eq_error_iff.1 h with h | ⟨_, _, -, h⟩
  · rw [isPathFault_of_ask h] at hpath
    cases hpath
  rcases bind_eq_error_iff.1 h with h | ⟨_, _, -, h⟩
  · refine cause?_of_belowTokens (fun u hu ts hts hnested => ?_) h hpath
    have : sizeOf u < sizeOf t :=
      sizeOf_nested_lt (List.get_mem t.members i) (nested?_of_subcommands? hu)
    exact cause?_of_pathTokens hts hnested hpath
  · cases h
termination_by sizeOf t

/-- The path that a rest field takes, where there is a token for it. -/
theorem pathFieldTokens_eq {t : CommandType} (isRequired : Bool)
    (h : t.instead? (pathMethod isRequired) = none) {ts : List String} (hts : ts ≠ []) :
    t.pathFieldTokens isRequired ts = (Value.path <$> t.pathTokens) ts := by
  obtain ⟨token, ts, rfl⟩ := List.exists_cons_of_ne_nil hts
  rw [pathFieldTokens, h]
  cases isRequired <;> rfl

end CommandType

end Paths

/-! ## Commands -/

namespace Command

variable {c : Member} {r : RestField CommandType} {ts : List String}

theorem advances_pathField {u : CommandType} {isRequired : Bool}
    (hmissing : ts = [] → isRequired = false) (cmd arg : FaultPart) :
    Advances (wrapping Fault.isPathFault (.badConvert cmd arg) (u.pathFieldTokens isRequired))
      ts := by
  cases hinstead : u.instead? (pathMethod isRequired) with
  | some s =>
    have hfield : u.pathFieldTokens isRequired = instead s := by
      rw [CommandType.pathFieldTokens, hinstead]
    rw [hfield]
    refine (advances_instead s).wrapping (fun e ts' he hpath => ?_) (by rintro _ _ ⟨⟩)
    rw [instead] at he
    cases hcall : s.call [.thing Tokens.kindName 0] with
    | ok v =>
      rw [hcall] at he
      cases he
    | error m =>
      rw [hcall] at he
      cases he
      cases hpath
  | none =>
    by_cases hts : ts = []
    · subst hts
      obtain rfl := hmissing rfl
      refine (advances_pure .none).of_nil ?_
      rw [wrapping, CommandType.pathFieldTokens, hinstead]
      rfl
    · have hfield := fun more (hmore : more ≠ []) =>
        CommandType.pathFieldTokens_eq isRequired hinstead hmore
      refine (((u.advances_pathTokens ts).map Value.path).of_ne_nil hts hfield).wrapping
        (fun e ts' he hpath => ?_) (by rintro _ _ ⟨⟩)
      rw [hfield ts hts] at he
      exact (CommandType.cause?_of_pathTokens hts (map_eq_error_iff.1 he) hpath).symm

/-- The value of a rest field advances, where there is a token if it needs one. -/
theorem advances_restValue (hforeign : r.kind.foreign? = none)
    (hmissing : ts = [] → r.required = false)
    {nested : (u : CommandType) → r.kind.target? = some u → TokenReading Value}
    (hnested : ∀ u hu ts, r.kind = .subcommand u → Advances (nested u hu) ts) :
    Advances (c.restValue r nested) ts := by
  obtain ⟨name, attr, isRequired, kind⟩ := r
  cases kind with
  | tokens converter => exact (advances_convertAll ⟨name, attr, converter⟩ ts).map Value.tuple
  | path u => exact advances_pathField hmissing _ _
  | subcommand u =>
    rw [restValue_of_subcommand rfl]
    cases u.instead? "parse" with
    | some s => exact advances_instead s
    | none => exact (hnested u rfl ts rfl).wrapping (fun _ _ _ _ => rfl) fun _ _ h => h
  | foreign isPath callable => cases hforeign

/-- **The rest of a command advances**, if it is handed to nothing but a type. -/
theorem advances_restTokens (hc : c.NestsTypes)
    {nested : (u : CommandType) → c.nested? = some u → TokenReading Value}
    (hnested : ∀ u hu ts, c.subcommands? = some u → Advances (nested u hu) ts) :
    Advances (c.restTokens nested) ts := by
  obtain hr | ⟨r, hr⟩ := Option.eq_none_or_eq_some c.rest
  · rw [restTokens_of_none hr]
    cases ts with
    | nil => exact (advances_pure []).of_nil rfl
    | cons token ts =>
      exact advances_refuse (fun _ => rfl) rfl fun part h => (Option.some.inj h).symm
  · have hread : ∀ ts, c.restTokens nested ts = _ := restTokens_eq_of_some hr
    have hvalue : ∀ {ts}, (ts = [] → r.required = false) → Advances ((fun v => [(r.attr, v)]) <$>
        c.restValue r fun u hu => nested u (CommandType.nested?_of_rest hr hu)) ts :=
      fun hmissing =>
      (advances_restValue (hc r hr) hmissing fun u hu ts hkind =>
        hnested u _ ts (subcommands?_of_rest hr hkind)).map _
    by_cases hts : ts = []
    · subst hts
      cases hrequired : r.required with
      | true =>
        refine .nil_error (e := .missingRequired c.called r.name) ?_ (by rintro ⟨⟩)
        rw [hread, if_pos ⟨rfl, hrequired⟩]
      | false =>
        refine (hvalue fun _ => hrequired).of_nil ?_
        rw [hread, if_neg fun h => absurd h.2 (by simp [hrequired])]
    · refine (hvalue fun h => absurd h hts).of_ne_nil hts fun more hmore => ?_
      rw [hread, if_neg fun h => hmore h.1]

/-- **The fields of a command advance.** -/
theorem advances_fieldTokens (hc : c.NestsTypes)
    {nested : (u : CommandType) → c.nested? = some u → TokenReading Value}
    (hnested : ∀ u hu ts, c.subcommands? = some u → Advances (nested u hu) ts) :
    Advances (c.fieldTokens nested) ts := by
  rw [fieldTokens]
  refine (advances_required c.required ts).bind fun required ts _ => ?_
  refine (advances_optional c.optional ts).bind fun optional ts _ => ?_
  refine (advances_restTokens hc hnested).bind fun rest ts _ => ?_
  exact advances_check (fun _ => rfl) _

end Command

/-- **A command advances through its tokens**, if all that read them are types. -/
theorem CommandType.advances_readTokens {t : CommandType}
    (ht : t.Throughout Command.NestsTypes) (ts : List String) : Advances t.readTokens ts := by
  rw [readTokens]
  refine advances_opened (by rintro ⟨⟩) (fun _ => ⟨rfl, rfl⟩) fun i ts => ?_
  refine (advances_ask _ .name).bind fun _ ts _ => ?_
  refine (advances_ask _ .command).bind fun _ ts _ => ?_
  have hmem := List.get_mem t.members i
  refine Command.advances_fieldTokens (ht.of_mem hmem) fun u hu ts hsub => ?_
  have : sizeOf u < sizeOf t := sizeOf_nested_lt hmem hu
  exact advances_readTokens (ht.nested hmem hsub) ts
termination_by sizeOf t

end CommandSpec
