import CommandSpec.Proofs.Command.Built
import CommandSpec.Proofs.Command.Canonical
import CommandSpec.Proofs.Command.Follows

/-!
# Proofs/Command/Declared — what a built type does with its first token

What holds of every command as it is declared holds of the commands of every built type
(`Built.of_mem`): it answers to its name, and where it delegates it has no other field.  So the
first token of a reading decides it: the reading goes on with the fields of the command that the
token names (`Built.readTokens_cons`), or it ends there (`readTokens_of_unresolved`).
-/

namespace CommandSpec

/-- What holds of a command as it is declared. -/
structure Command.IsDeclared (c : Member) : Prop where
  /-- Its id answers whatever it is asked. -/
  fault?_eq_none : ∀ asked, c.fault? asked = none
  /-- Faults name it by its canonical name. -/
  called_eq : c.called = (c.name : FaultPart)
  /-- Where it delegates, it has no other field. -/
  plain_eq_nil : ∀ r ∈ c.rest, ∀ u, r.kind = .subcommand u → c.required = [] ∧ c.optional = []

namespace CommandType

variable {t : CommandType}

/-- **What holds of every declared command holds of the commands of a built type.** -/
theorem Built.of_mem {P : Member → Prop}
    (hP : ∀ {serial : Nat} {d : Declaration} (m : Making serial d), P m.command)
    (ht : Built t) : ∀ c ∈ t.members, P c := by
  induction ht with
  | root kind => exact fun _ hc => nomatch hc
  | @declare serial d t log log' below h ih =>
    rcases of_declare h with h | h
    · obtain ⟨m, rfl, -⟩ := exists_making h
      intro c hc
      obtain rfl := List.mem_singleton.1 hc
      exact hP m
    · obtain ⟨-, -, -, -, hmembers⟩ := of_declareFamily h
      exact fun c hc => ih _ (hmembers c hc) c (List.mem_singleton_self c)

theorem Making.isDeclared {serial : Nat} {d : Declaration} (m : Making serial d) :
    m.command.IsDeclared where
  fault?_eq_none _ := rfl
  called_eq := rfl
  plain_eq_nil _ hr _ hkind := Layout.plain_eq_nil_of_delegates m.layout_eq hr (.inl ⟨_, hkind⟩)

/-- **The commands of a built type** are as they have been declared. -/
theorem Built.isDeclared (ht : Built t) : ∀ c ∈ t.members, c.IsDeclared :=
  ht.of_mem Making.isDeclared

/-- The commands of a built type, each as a type of its own, are built. -/
theorem Built.single_of_mem (ht : Built t) : ∀ c ∈ t.members, Built (single c) := by
  induction ht with
  | root kind => exact fun _ hc => nomatch hc
  | @declare serial d t log log' below h ih =>
    rcases of_declare h with h' | h'
    · obtain ⟨c, rfl, -⟩ := of_declareCommand h'
      intro c' hc
      obtain rfl := List.mem_singleton.1 hc
      exact .declare below h
    · obtain ⟨-, -, -, -, hmembers⟩ := of_declareFamily h'
      exact fun c hc => below _ (hmembers c hc)

end CommandType

/-! ## The first token -/

namespace TokenReading

/-- What a reading ends with, whatever tokens are left. -/
def outcome {α : Type} : EStateM.Result Fault (List String) α → Except Fault α
  | .ok a _ => .ok a
  | .error e _ => .error e

section Outcome

variable {α β : Type} {ts : List String}

theorem outcome_check {ε : Type} (fault : ε → Fault) (result : Except ε α) :
    outcome (check fault result ts) = result.mapError fault := by
  cases result <;> rfl

theorem outcome_wrapping (belongs : Fault → Bool) (wrap : Fault → Fault) (step : TokenReading α) :
    outcome (wrapping belongs wrap step ts)
      = (outcome (step ts)).mapError fun e => if belongs e then wrap e else e := by
  rw [wrapping]
  cases step ts <;> rfl

theorem outcome_map (f : α → β) (step : TokenReading α) :
    outcome ((f <$> step) ts) = (outcome (step ts)).map f := by
  cases hstep : step ts with
  | ok a ts' =>
    rw [map_of_ok hstep]
    rfl
  | error e ts' =>
    rw [map_of_error hstep]
    rfl

/-- A result that is checked after a step decides the end, whatever tokens the step has left. -/
theorem outcome_bind_check {ε : Type} (step : TokenReading α) (fault : ε → Fault)
    (result : α → Except ε β) :
    outcome ((step >>= fun a => check fault (result a)) ts)
      = outcome (step ts) >>= fun a => (result a).mapError fault := by
  cases hstep : step ts with
  | ok a ts' =>
    rw [bind_of_ok hstep, outcome_check]
    rfl
  | error e ts' =>
    rw [bind_of_error hstep]
    rfl

end Outcome

end TokenReading

namespace CommandType

variable {t : CommandType} {token : String}

/-- **A list of tokens is parsed as it is read.** -/
theorem parse_ofList (t : CommandType) (ts : List String) :
    t.parse (.ofList ts) = TokenReading.outcome (t.readTokens ts) := by
  rw [parse_eq t (Tokens.holds_ofList ts)]
  cases t.readTokens ts <;> rfl

/-- Only types with commands resolve tokens. -/
theorem isRoot_of_fin (i : Fin t.members.length) : t.isRoot = false := by
  cases t with
  | root kind => exact absurd i.isLt (Nat.not_lt_zero _)
  | single c => rfl
  | family name serial summary members shared => rfl

/-- Without a token nothing is read. -/
theorem readTokens_nil (t : CommandType) : t.readTokens [] = .error .noInput [] := by
  rw [readTokens]
  rfl

/-- A token that names no command is consumed, and ends the reading. -/
theorem readTokens_of_unresolved {e : Fault} (hroot : t.isRoot = false)
    (he : t.resolve token = .error e) (ts : List String) :
    t.readTokens (token :: ts) = .error (.badId e) ts := by
  have hnext : TokenReading.next (token :: ts) = .ok (some token) ts := rfl
  rw [readTokens, bind_of_ok hnext]
  dsimp only
  rw [hroot, he]
  rfl

/-- **A token that names a command is consumed, and its fields are read.** -/
theorem Built.readTokens_cons (ht : Built t) {i : Fin t.members.length}
    (hi : t.resolve token = .ok i) (ts : List String) :
    t.readTokens (token :: ts)
      = (t.members.get i).fieldTokens (fun u _ => u.readTokens) ts := by
  have hask := (ht.isDeclared _ (List.get_mem t.members i)).fault?_eq_none
  have hnext : TokenReading.next (token :: ts) = .ok (some token) ts := rfl
  rw [readTokens, bind_of_ok hnext]
  dsimp only
  rw [isRoot_of_fin i, hi]
  simp only [TokenReading.ask, hask]
  rfl

/-- A token resolves to a command. -/
def ResolvesTo (t : CommandType) (token : String) (c : Member) : Prop :=
  ∃ i, t.resolve token = .ok i ∧ t.members.get i = c

theorem ResolvesTo.mem {c : Member} (h : t.ResolvesTo token c) : c ∈ t.members := by
  obtain ⟨i, -, rfl⟩ := h
  exact List.get_mem t.members i

/-- The canonical name of a command of a built type resolves to it. -/
theorem Built.resolvesTo_name (ht : Built t) {c : Member} (hc : c ∈ t.members) :
    t.ResolvesTo c.name c := by
  obtain ⟨i, rfl⟩ := List.mem_iff_get.1 hc
  exact ⟨i, ht.isNamed.resolve_name i, rfl⟩

/-- What is seen of the commands of a built type is seen of one that its name resolves to. -/
theorem Built.exists_resolvesTo (ht : Built t) {P : Member → Prop}
    (h : t.members ≠ [] ∧ ∀ c ∈ t.members, c.name = token ∧ P c) :
    ∃ c, t.ResolvesTo token c ∧ c.name = token ∧ P c := by
  obtain ⟨c, hc⟩ := List.exists_mem_of_ne_nil _ h.1
  obtain ⟨rfl, hP⟩ := h.2 c hc
  exact ⟨c, ht.resolvesTo_name hc, rfl, hP⟩

/-- After a token that resolves to a command, its fields are read. -/
theorem Built.readTokens_of_resolvesTo (ht : Built t) {c : Member} (h : t.ResolvesTo token c)
    (ts : List String) :
    t.readTokens (token :: ts) = c.fieldTokens (fun u _ => u.readTokens) ts := by
  obtain ⟨i, hi, rfl⟩ := h
  exact ht.readTokens_cons hi ts

/-- **After a token that resolves to a command, its fields are parsed.** -/
theorem Built.parse_of_resolvesTo (ht : Built t) {c : Member} (h : t.ResolvesTo token c)
    (ts : List String) :
    t.parse (.ofList (token :: ts))
      = TokenReading.outcome (c.fieldTokens (fun u _ => u.readTokens) ts) := by
  rw [parse_ofList, ht.readTokens_of_resolvesTo h]

end CommandType

end CommandSpec
