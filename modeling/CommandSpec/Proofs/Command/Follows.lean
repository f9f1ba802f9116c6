import CommandSpec.Proofs.Command.TokenReading

/-!
# Proofs/Command/Follows — readings from streams do what readings from lists do

A reading **follows** a reading from a list if, from every state whose stream holds the list, both
give the same value or the same fault and leave the same tokens.  Each step of a reader follows the
step on lists, and `Follows.bind` puts the steps together; `follows_read` and `follows_readPath` are
the results, by recursion on the type.
-/

namespace CommandSpec

/-- A result on a stream is the result on a list, with the tokens that are left. -/
inductive Matches {α : Type} :
    EStateM.Result Fault ReadState α → EStateM.Result Fault (List String) α → Prop
  | ok {a : α} {s : ReadState} {ts : List String} (h : s.tokens.Holds ts) :
    Matches (.ok a s) (.ok a ts)
  | error {e : Fault} {s : ReadState} {ts : List String} (h : s.tokens.Holds ts) :
    Matches (.error e s) (.error e ts)

/-- **A reading follows a reading from a list.** -/
def Follows {α : Type} (step : Reading α) (spec : TokenReading α) : Prop :=
  ∀ (s : ReadState) (ts : List String), s.tokens.Holds ts → Matches (step s) (spec ts)

section Combining

variable {α β : Type} {step : Reading α} {spec : TokenReading α}

theorem follows_pure (a : α) : Follows (pure a) (pure a) := fun _ _ h => .ok h

theorem follows_throw (e : Fault) : Follows (α := α) (throw e) (throw e) := fun _ _ h => .error h

theorem follows_throw_bind (e : Fault) (f : β → Reading α) :
    Follows (throw e >>= f) (throw e) := fun _ _ h => .error h

/-- **Steps that follow can be put together.** -/
theorem Follows.bind (h : Follows step spec) {f : α → Reading β} {g : α → TokenReading β}
    (hf : ∀ a, Follows (f a) (g a)) : Follows (step >>= f) (spec >>= g) := by
  intro s ts hs
  have hfirst := h s ts hs
  show Matches (EStateM.bind step f s) (EStateM.bind spec g ts)
  rw [EStateM.bind, EStateM.bind]
  generalize step s = r, spec ts = q at hfirst
  cases hfirst with
  | ok hs' => exact hf _ _ _ hs'
  | error hs' => exact .error hs'

theorem Follows.map (h : Follows step spec) (f : α → β) : Follows (f <$> step) (f <$> spec) := by
  intro s ts hs
  have hfirst := h s ts hs
  show Matches (EStateM.map f step s) (EStateM.map f spec ts)
  rw [EStateM.map, EStateM.map]
  generalize step s = r, spec ts = q at hfirst
  cases hfirst with
  | ok hs' => exact .ok hs'
  | error hs' => exact .error hs'

theorem Follows.wrapping (h : Follows step spec) (belongs : Fault → Bool) (wrap : Fault → Fault) :
    Follows (Reading.wrapping belongs wrap step) (TokenReading.wrapping belongs wrap spec) := by
  intro s ts hs
  have hfirst := h s ts hs
  rw [Reading.wrapping, TokenReading.wrapping]
  generalize step s = r, spec ts = q at hfirst
  cases hfirst with
  | ok hs' => exact .ok hs'
  | error hs' => exact .error hs'

end Combining

/-! ## Results -/

namespace Follows

variable {α : Type} {step : Reading α} {spec : TokenReading α} {s s' : ReadState}
  {ts ts' : List String}

/-- What a reading has given is what the reading from the list gives. -/
theorem of_ok (h : Follows step spec) (hs : s.tokens.Holds ts) {a : α} (hstep : step s = .ok a s') :
    ∃ ts', spec ts = .ok a ts' ∧ s'.tokens.Holds ts' := by
  have hmatches := h s ts hs
  rw [hstep] at hmatches
  generalize spec ts = q at hmatches
  cases hmatches with
  | ok hs' => exact ⟨_, rfl, hs'⟩

theorem of_error (h : Follows step spec) (hs : s.tokens.Holds ts) {e : Fault}
    (hstep : step s = .error e s') : ∃ ts', spec ts = .error e ts' ∧ s'.tokens.Holds ts' := by
  have hmatches := h s ts hs
  rw [hstep] at hmatches
  generalize spec ts = q at hmatches
  cases hmatches with
  | error hs' => exact ⟨_, rfl, hs'⟩

/-- What the reading from the list gives is what a reading gives. -/
theorem exists_ok (h : Follows step spec) (hs : s.tokens.Holds ts) {a : α}
    (hspec : spec ts = .ok a ts') : ∃ s', step s = .ok a s' ∧ s'.tokens.Holds ts' := by
  have hmatches := h s ts hs
  rw [hspec] at hmatches
  generalize step s = r at hmatches
  cases hmatches with
  | ok hs' => exact ⟨_, rfl, hs'⟩

theorem exists_error (h : Follows step spec) (hs : s.tokens.Holds ts) {e : Fault}
    (hspec : spec ts = .error e ts') : ∃ s', step s = .error e s' ∧ s'.tokens.Holds ts' := by
  have hmatches := h s ts hs
  rw [hspec] at hmatches
  generalize step s = r at hmatches
  cases hmatches with
  | error hs' => exact ⟨_, rfl, hs'⟩

end Follows

/-! ## Steps -/

theorem follows_next : Follows Reading.next TokenReading.next := by
  intro s ts hs
  obtain ⟨s', hnext, hs'⟩ := hs.next
  rw [Reading.next, Reading.take, hnext]
  exact .ok hs'

theorem follows_peek : Follows Reading.peek TokenReading.peek := by
  intro s ts hs
  obtain ⟨s', hpeek, hs'⟩ := hs.peek
  rw [Reading.peek, Reading.take, hpeek]
  exact .ok hs'

/-- What is logged makes no difference. -/
theorem follows_log_bind {α : Type} (e : Event) {step : Reading α} {spec : TokenReading α}
    (h : Follows step spec) : Follows (do Reading.log e; step) spec := fun _ ts hs => h _ ts hs

theorem follows_ask (c : Member) (asked : Asked) :
    Follows (Reading.ask c asked) (TokenReading.ask c asked) := by
  rw [Reading.ask, TokenReading.ask]
  cases c.fault? asked with
  | none => exact follows_pure ()
  | some e => exact follows_throw e.fault

theorem follows_instead (s : Shared CommandType) :
    Follows (Reading.instead s) (TokenReading.instead s) := by
  rw [Reading.instead, TokenReading.instead]
  cases s.call [.thing Tokens.kindName 0] with
  | ok v => exact follows_pure v
  | error e => exact follows_throw e.fault

/-- A method goes on with what it is told of the tokens. -/
theorem follows_go (m : Method) : Follows (Reading.go m) (TokenReading.go m) := by
  induction m with
  | done outcome =>
    obtain e | v := outcome
    · exact follows_throw e
    · exact follows_pure v
  | log event more ih => exact follows_log_bind event ih
  | next more ih =>
    intro s ts hs
    obtain ⟨s', hnext, hs'⟩ := hs.next
    have hgo : Reading.go (.next more) s
        = Reading.go (more (.ok ts.head?)) { s with tokens := s' } := by
      simp only [Reading.go, hnext]
    exact hgo ▸ ih _ _ _ hs'
  | peek more ih =>
    intro s ts hs
    obtain ⟨s', hpeek, hs'⟩ := hs.peek
    have hgo : Reading.go (.peek more) s
        = Reading.go (more (.ok ts.head?)) { s with tokens := s' } := by
      simp only [Reading.go, hpeek]
    exact hgo ▸ ih _ _ _ hs'

theorem follows_call (callable : Converter) (method : String) :
    Follows (Reading.call callable method) (TokenReading.call callable method) := by
  rw [Reading.call, TokenReading.call]
  cases callable.reader? method with
  | some m => exact follows_go m
  | none => exact follows_throw _

theorem follows_foreignPath (callable : Converter) :
    Follows (Reading.foreignPath callable) (TokenReading.foreignPath callable) := by
  refine follows_peek.bind fun o => ?_
  obtain _ | token := o
  · exact follows_pure []
  · exact (follows_next.map _).bind fun _ => follows_throw _

section Converting

variable (cmd : FaultPart) (arg : String) (converter : Converter)

theorem follows_convert (token : String) :
    Follows (Reading.convert cmd arg converter token)
      (TokenReading.convert cmd arg converter token) := by
  intro s ts hs
  rw [Reading.convert, TokenReading.convert]
  obtain ⟨v | e, events⟩ := converter.convert token
  · exact .error hs
  · exact .ok hs

theorem follows_convertAll :
    Follows (Reading.convertAll cmd arg converter)
      (TokenReading.convertAll cmd arg converter) := by
  intro s ts
  induction ts generalizing s with
  | nil =>
    intro hs
    obtain ⟨s', hnext, hs'⟩ := hs.next
    rw [Reading.convertAll, TokenReading.convertAll]
    split <;> next h => rw [hnext] at h; cases h <;> exact .ok hs'
  | cons t ts ih =>
    intro hs
    obtain ⟨s', hnext, hs'⟩ := hs.next
    rw [Reading.convertAll, TokenReading.convertAll]
    split
    · next h => rw [hnext] at h; cases h
    · next h => rw [hnext] at h; cases h
    · next token s'' h =>
      rw [hnext] at h
      cases h
      obtain ⟨e | v, events⟩ := converter.convert t
      · exact .error hs'
      · have hmore := ih ⟨s', s.events ++ events⟩ hs'
        dsimp only
        generalize Reading.convertAll cmd arg converter ⟨s', s.events ++ events⟩ = r,
          TokenReading.convertAll cmd arg converter ts = q at hmore
        cases hmore with
        | ok hs'' => exact .ok hs''
        | error hs'' => exact .error hs''

end Converting

theorem follows_required (cmd : FaultPart) :
    ∀ fs : List PlainField, Follows (Reading.required cmd fs) (TokenReading.required cmd fs)
  | [] => follows_pure []
  | f :: fs => by
    rw [Reading.required, TokenReading.required]
    refine follows_next.bind fun o => ?_
    cases o with
    | none => exact follows_throw _
    | some token =>
      refine (follows_convert cmd f.name f.converter token).bind fun v => ?_
      exact (follows_required cmd fs).bind fun vs => follows_pure _

theorem follows_optional (cmd : FaultPart) :
    ∀ fs : List PlainField, Follows (Reading.optional cmd fs) (TokenReading.optional cmd fs)
  | [] => follows_pure []
  | f :: fs => by
    have hmore : ∀ v : Value, Follows
        (do let vs ← Reading.optional cmd fs; return (f.attr, v) :: vs)
        (do let vs ← TokenReading.optional cmd fs; return (f.attr, v) :: vs) := fun v =>
      (follows_optional cmd fs).bind fun vs => follows_pure _
    rw [Reading.optional, TokenReading.optional, TokenReading.optionalValue]
    rw [bind_assoc]
    refine follows_next.bind fun o => ?_
    obtain _ | token := o
    · exact (follows_pure _).bind hmore
    · exact (follows_convert cmd f.name f.converter token).bind hmore

/-- Where no token may be left, a reading goes on with nothing. -/
theorem follows_nothingLeft {α β : Type} {fault : String → Fault} {step : List α → Reading β}
    {spec : List α → TokenReading β} (h : ∀ xs, Follows (step xs) (spec xs)) :
    Follows
      (do match ← Reading.next with
          | none => pure [] >>= step
          | some extra => throw (fault extra) >>= step)
      ((do match ← TokenReading.next with
          | none => return []
          | some extra => throw (fault extra)) >>= spec) := by
  rw [bind_assoc]
  refine follows_next.bind fun o => ?_
  obtain _ | extra := o
  · exact (follows_pure []).bind h
  · exact follows_throw_bind _ _

/-! ## Readers -/

namespace CommandType

/-- **A path is read from a stream as it is from the list of its tokens.** -/
theorem follows_readPath (t : CommandType) : Follows t.readPath t.pathTokens := by
  rw [readPath, pathTokens]
  refine follows_next.bind fun o => ?_
  obtain _ | token := o
  · exact follows_throw _
  dsimp only
  split
  · exact follows_throw_bind _ _
  cases hi : t.resolve token with
  | error e => exact follows_throw _
  | ok i =>
    refine (follows_ask (t.members.get i) .delegation).bind fun _ => ?_
    have hlast : ∀ below : List CommandId, Follows
        (do Reading.log (.parsedPath token (t.members.get i).name)
            return (⟨(t.members.get i).id, below⟩ : CommandPath))
        (pure ⟨(t.members.get i).id, below⟩) := fun below =>
          follows_log_bind _ (follows_pure _)
    split
    · next u hu =>
      have : sizeOf u < sizeOf t :=
        sizeOf_nested_lt (List.get_mem t.members i) (nested?_of_subcommands? hu)
      rw [Command.belowTokens_of_some (c := t.members.get i) hu, bind_assoc]
      refine follows_peek.bind fun o => ?_
      obtain _ | ahead := o
      · exact (follows_pure []).bind hlast
      · exact ((follows_readPath u).map CommandPath.ids).bind hlast
    · next hu =>
      cases hforeign : (t.members.get i).foreign? with
      | some callable =>
        rw [Command.belowTokens_of_foreign hforeign]
        exact (follows_foreignPath callable).bind hlast
      | none =>
        rw [Command.belowTokens_of_none (c := t.members.get i) hu hforeign]
        exact follows_nothingLeft hlast
termination_by sizeOf t

theorem follows_readPathField (t : CommandType) (required : Bool) :
    Follows (t.readPathField required) (t.pathFieldTokens required) := by
  rw [readPathField, pathFieldTokens]
  cases t.instead? (pathMethod required) with
  | some s => exact follows_instead s
  | none =>
    cases required with
    | true => exact (follows_readPath t).map Value.path
    | false =>
      simp only [Bool.false_eq_true, if_false]
      rw [readPath?, optionalPathTokens, map_bind]
      refine follows_peek.bind fun o => ?_
      obtain _ | ahead := o
      · exact follows_pure _
      · dsimp only
        rw [Functor.map_map]
        exact (follows_readPath t).map Value.path

theorem follows_readForeign (c : Member) (r : RestField CommandType) (isPath : Bool)
    (callable : Converter) :
    Follows (c.readForeign r isPath callable) (c.foreignTokens r isPath callable) := by
  cases isPath with
  | true => exact (follows_call callable _).wrapping _ _
  | false => exact (follows_call callable _).wrapping _ _

theorem follows_make (c : Member) (fields : List (String × Value)) :
    Follows
      (match c.make fields with
        | .error e => throw e.fault
        | .ok v => return v)
      (TokenReading.check Misuse.fault (c.make fields)) := by
  cases c.make fields with
  | error e => exact follows_throw e.fault
  | ok v => exact follows_pure v

/-- **A command is read from a stream as it is from the list of its tokens.** -/
theorem follows_read (t : CommandType) : Follows t.read t.readTokens := by
  rw [read, readTokens]
  refine follows_next.bind fun o => ?_
  obtain _ | token := o
  · exact follows_throw _
  dsimp only
  split
  · exact follows_throw_bind _ _
  cases hi : t.resolve token with
  | error e => exact follows_throw _
  | ok i =>
    refine (follows_ask (t.members.get i) .name).bind fun _ => ?_
    refine follows_log_bind _ ?_
    refine (follows_ask (t.members.get i) .command).bind fun _ => ?_
    refine (follows_required _ (t.members.get i).required).bind fun required => ?_
    refine (follows_optional _ (t.members.get i).optional).bind fun optional => ?_
    have hlast := fun rest => follows_make (t.members.get i) (required ++ optional ++ rest)
    split
    · next hr =>
      rw [Command.restTokens_of_none (c := t.members.get i) hr]
      exact follows_nothingLeft hlast
    · next r hr =>
      have hvalue : ∀ v : Value, Follows
          (do let rest ← (pure [(r.attr, v)] : Reading (List (String × Value)))
              match (t.members.get i).make (required ++ optional ++ rest) with
              | .error e => throw e.fault
              | .ok v => return v)
          (do let rest ← (pure [(r.attr, v)] : TokenReading (List (String × Value)))
              TokenReading.check Misuse.fault
                ((t.members.get i).make (required ++ optional ++ rest))) := fun v =>
        (follows_pure _).bind hlast
      rw [Command.restTokens_of_some (c := t.members.get i) hr, bind_assoc]
      refine follows_peek.bind fun o => ?_
      obtain ⟨name, attr, isRequired, kind⟩ := r
      by_cases hmissing : (o.isNone && isRequired) = true
      · rw [if_pos hmissing, if_pos hmissing]
        exact follows_throw_bind _ _
      rw [if_neg hmissing, if_neg hmissing, bind_assoc]
      cases kind with
      | tokens converter =>
        exact ((follows_convertAll _ name converter).map Value.tuple).bind hvalue
      | path u =>
        exact ((follows_readPathField u isRequired).wrapping _ _).bind hvalue
      | subcommand u =>
        have : sizeOf u < sizeOf t :=
          sizeOf_nested_lt (List.get_mem t.members i) (nested?_of_rest hr rfl)
        rw [Command.restValue]
        dsimp only
        cases u.instead? "parse" with
        | some s => exact (follows_instead s).bind hvalue
        | none => exact ((follows_read u).wrapping _ _).bind hvalue
      | foreign isPath callable => exact (follows_readForeign _ _ isPath callable).bind hvalue
termination_by sizeOf t

/-- **What a command is read as depends on the tokens alone.** -/
theorem parse_eq (t : CommandType) {s : Tokens} {ts : List String} (h : s.Holds ts) :
    t.parse s = match t.readTokens ts with
      | .ok v _ => .ok v
      | .error e _ => .error e := by
  have hread := follows_read t ⟨s, []⟩ ts h
  rw [parse]
  generalize t.read ⟨s, []⟩ = r, t.readTokens ts = q at hread
  cases hread <;> rfl

theorem parse_ofList_eq_ok_iff {t : CommandType} {ts : List String} {v : Value} :
    t.parse (.ofList ts) = .ok v ↔ ∃ ts', t.readTokens ts = .ok v ts' := by
  rw [parse_eq t (Tokens.holds_ofList ts)]
  cases t.readTokens ts with
  | ok v' ts' =>
    constructor
    · rintro ⟨⟩
      exact ⟨ts', rfl⟩
    · rintro ⟨_, ⟨⟩⟩
      rfl
  | error e ts' =>
    constructor
    · exact fun h => nomatch h
    · rintro ⟨_, h⟩
      cases h

end CommandType

end CommandSpec
