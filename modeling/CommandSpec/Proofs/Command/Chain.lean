import CommandSpec.Proofs.Command.Consumption
import CommandSpec.Proofs.Session.Help

/-!
# Proofs/Command/Chain — a value, a path and a topic name the same command

The value of a command that delegates holds the value of its subcommand, so that a value that has
been read is a chain of commands (`Value.chain`).  As many tokens as there are commands in the chain
are read as the path of their ids (`Built.path_of_readTokens`), by recursion on the type: both
readers resolve a token at every level, and both stop at a command that does not delegate.  Help
follows the path to the last command (`Built.topicFrom_of_reaches`).

A class body can put something else in the place of the methods that a nested type is asked with,
and of what makes the values of a command (`Command.IsUnreplaced`).
-/

namespace CommandSpec

/-- **The commands of a value**: its own, and those of the value that it holds for its only field,
where it delegates. -/
def Value.chain : Value → List CommandId
  | .command i fields =>
    i :: match i.delegates, fields with
      | true, [(_, v)] => v.chain
      | _, _ => []
  | _ => []

theorem Value.chain_of_delegates {i : CommandId} (h : i.delegates = true) (attr : String)
    (v : Value) : (command i [(attr, v)]).chain = i :: v.chain := by
  simp [chain, h]

theorem Value.chain_of_not_delegates {i : CommandId} (h : i.delegates = false)
    (fields : List (String × Value)) : (command i fields).chain = [i] := by
  simp [chain, h]

/-- A command delegates where its rest field does. -/
theorem Command.exists_delegated_iff {c : Member} :
    (∃ r ∈ c.rest, (∃ u, r.kind = .subcommand u) ∨ ∃ callable, r.kind = .foreign false callable) ↔
      (∃ u, c.subcommands? = some u) ∨ ∃ callable, c.foreign? = some callable := by
  constructor
  · rintro ⟨r, hr, ⟨u, hkind⟩ | ⟨callable, hkind⟩⟩
    · exact .inl ⟨u, subcommands?_of_rest hr hkind⟩
    · exact .inr ⟨callable, foreign?_of_rest hr hkind⟩
  · rintro (⟨u, hu⟩ | ⟨callable, h⟩)
    · obtain ⟨d, rfl, rfl⟩ := exists_delegate hu
      exact ⟨d.field, d.rest_eq, .inl ⟨d.target, d.kind_eq⟩⟩
    · obtain ⟨r, hr, hkind⟩ := exists_of_foreign? h
      exact ⟨r, hr, .inr ⟨callable, hkind⟩⟩

theorem Command.subcommands?_of_none {c : Member} (h : c.rest.isNone = true) :
    c.subcommands? = none := by
  rw [subcommands?, Option.isNone_iff_eq_none.1 h]

/-- A command whose subcommand type has nothing in the place of a method. -/
def Command.Keeps (method : String) (c : Member) : Prop :=
  ∀ u, c.subcommands? = some u → u.instead? method = none

/-- A command that makes its values by itself, and has nothing in the place of what reads the values
of its subcommand. -/
structure Command.IsUnreplaced (c : Member) : Prop where
  makes : c.MakesOwn
  /-- What it delegates to is a type. -/
  nests : c.foreign? = none
  keeps : c.Keeps "parse"

namespace CommandType

variable {t : CommandType}

/-- **The types along a chain keep a method**: nothing stands in its place in any type that a
command of the chain delegates to. -/
def KeepsAlong (t : CommandType) (method : String) (chain : List CommandId) : Prop :=
  ∀ ids c, t.Reaches ids c → ids <+: chain → c.Keeps method

section KeepsAlong

variable {c : Member} {u : CommandType} {method : String} {ids : List CommandId}
  (h : t.KeepsAlong method (c.id :: ids)) (hc : c ∈ t.members) (hu : c.subcommands? = some u)
include h hc hu

theorem KeepsAlong.head : u.instead? method = none :=
  h [c.id] c (.last hc) (List.prefix_append [c.id] ids) u hu

theorem KeepsAlong.tail : u.KeepsAlong method ids := fun before d hd hbefore =>
  h (c.id :: before) d (.cons hc hu hd) ((List.prefix_cons_inj c.id).2 hbefore)

end KeepsAlong

/-- **A command that tokens name**: the first token resolves to it, or to a command that delegates
to a type of which the tokens after it name the command. -/
inductive Addresses : CommandType → List String → Member → Prop
  | first {t : CommandType} {c : Member} {token : String} {ts : List String}
    (h : t.ResolvesTo token c) : Addresses t (token :: ts) c
  | later {t u : CommandType} {c d : Member} {token : String} {ts : List String}
    (h : t.ResolvesTo token c) (hu : c.subcommands? = some u) (hd : Addresses u ts d) :
    Addresses t (token :: ts) d

/-- **Nothing is replaced along some tokens**: in no command that they name. -/
def ReadsAlong (t : CommandType) (ts : List String) : Prop :=
  ∀ c, t.Addresses ts c → c.IsUnreplaced

section ReadsAlong

variable {c : Member} {u : CommandType} {token : String} {ts : List String}
  (h : t.ReadsAlong (token :: ts)) (hc : t.ResolvesTo token c)
include h hc

theorem ReadsAlong.head : c.IsUnreplaced := h c (.first hc)

theorem ReadsAlong.tail (hu : c.subcommands? = some u) : u.ReadsAlong ts :=
  fun d hd => h d (.later hc hu hd)

end ReadsAlong

/-- What holds at every depth holds of the commands that tokens name. -/
theorem Throughout.of_addresses {P : Member → Prop} (h : t.Throughout P) {ts : List String}
    {c : Member} (hc : t.Addresses ts c) : P c := by
  induction hc with
  | first hc => exact h.of_mem hc.mem
  | later hc hu _ ih => exact ih (h.nested hc.mem hu)

theorem ReadsAlong.of_throughout (h : t.Throughout Command.IsUnreplaced) (ts : List String) :
    t.ReadsAlong ts := fun _ hc => h.of_addresses hc

/-- What holds at every depth holds where a chain leads to. -/
theorem Throughout.of_reaches {P : Member → Prop} (h : t.Throughout P) {ids : List CommandId}
    {c : Member} (hc : t.Reaches ids c) : P c := by
  induction hc with
  | last hc => exact h.of_mem hc
  | cons hc hu _ ih => exact ih (h.nested hc hu)

theorem KeepsAlong.of_prefix {method : String} {before chain : List CommandId}
    (h : t.KeepsAlong method chain) (hbefore : before <+: chain) : t.KeepsAlong method before :=
  fun ids c hc hids => h ids c hc (hids.trans hbefore)

theorem KeepsAlong.of_throughout {method : String} (h : t.Throughout (Command.Keeps method))
    (chain : List CommandId) : t.KeepsAlong method chain := fun _ _ hc _ => h.of_reaches hc

/-! ## Commands that delegate -/

/-- The id of a command says whether it delegates. -/
theorem Built.delegates_iff (ht : Built t) : ∀ c ∈ t.members,
    (c.id.delegates = true ↔
      (∃ u, c.subcommands? = some u) ∨ ∃ callable, c.foreign? = some callable) :=
  ht.of_mem fun m =>
    (Layout.delegates_iff m.layout_eq).trans (Command.exists_delegated_iff (c := m.command))

/-- The chain of a command that delegates goes on with that of its subcommand. -/
theorem Built.chain_wrapValue (ht : Built t) {d : Delegate} (hd : d.command ∈ t.members)
    (w : Value) : (d.wrapValue w).chain = d.command.id :: w.chain :=
  Value.chain_of_delegates ((ht.delegates_iff _ hd).2
    (.inl ⟨d.target, Command.subcommands?_of_rest d.rest_eq d.kind_eq⟩)) d.field.attr w

/-- **What a command that delegates is read as** holds what its subcommand is read as. -/
theorem Built.exists_of_delegate (ht : Built t) {d : Delegate} {token : String}
    (h : t.ResolvesTo token d.command) (hmakes : d.command.MakesOwn) {ts ts' : List String}
    {v : Value} (hread : t.readTokens (token :: ts) = .ok v ts') :
    ∃ w, v = d.wrapValue w ∧
      (d.target.instead? "parse" = none → d.target.readTokens ts = .ok w ts') := by
  obtain ⟨hrequired, hoptional⟩ :=
    (ht.isDeclared _ h.mem).plain_eq_nil d.field d.rest_eq d.target d.kind_eq
  rw [ht.readTokens_of_resolvesTo h, Command.fieldTokens_of_nil hrequired hoptional] at hread
  obtain ⟨rest, ts₁, hrest, hcheck⟩ := bind_eq_ok_iff.1 hread
  obtain ⟨hmake, rfl⟩ := TokenReading.check_eq_ok_iff.1 hcheck
  obtain ⟨-, w, hw, rfl⟩ := (Command.restTokens_some_eq_ok_iff d.rest_eq).1 hrest
  refine ⟨w, Command.eq_of_make hmakes hmake, fun hkeeps => ?_⟩
  rw [Command.restValue_of_subcommand d.kind_eq, hkeeps] at hw
  exact TokenReading.wrapping_eq_ok_iff.1 hw

/-- **A command that delegates is read** from its name and the tokens of its subcommand. -/
theorem Built.parse_of_subcommand (ht : Built t) {d : Delegate} {token : String}
    (h : t.ResolvesTo token d.command) (hfree : d.command.IsFree)
    (hreader : d.target.instead? "parse" = none) {ts : List String} (hne : ts ≠ []) {w : Value}
    (hw : d.target.parse (.ofList ts) = .ok w) :
    t.parse (.ofList (token :: ts)) = .ok (d.wrapValue w) := by
  rw [ht.parse_of_delegate h, if_neg fun hnil => hne hnil.1, answer_eq_parse hreader, hw,
    d.wrap_ok hfree]

/-- The chain of any other command ends with it. -/
theorem Built.chain_of_last (ht : Built t) {c : Member} (hc : c ∈ t.members)
    (hlast : c.subcommands? = none) (hforeign : c.foreign? = none)
    (fields : List (String × Value)) : (Value.command c.id fields).chain = [c.id] :=
  Value.chain_of_not_delegates (by simpa [hlast, hforeign] using ht.delegates_iff c hc) fields

/-! ## Paths -/

/-- **As many tokens as a value has commands are read as the path of their ids.** -/
theorem Built.path_of_readTokens {t : CommandType} (ht : Built t) {ts ts' : List String} {v : Value}
    (h : t.readTokens ts = .ok v ts') (hreads : t.ReadsAlong ts) :
    (∃ c, t.Reaches v.chain c) ∧ v.chain.length ≤ ts.length ∧
      ∃ p, p.ids = v.chain ∧ t.pathTokens (ts.take v.chain.length) = .ok p [] := by
  obtain ⟨token, ts, i, rfl, -, hi, -, -, hfields⟩ := readTokens_eq_ok_iff.1 h
  have hresolves : t.ResolvesTo token (t.members.get i) := ⟨i, hi, rfl⟩
  have hown := hreads.head hresolves
  generalize t.members.get i = c at hresolves hfields hown
  obtain hu | ⟨u, hu⟩ := Option.eq_none_or_eq_some c.subcommands?
  · obtain ⟨_, _, _, _, _, -, -, -, hmake⟩ := Command.fieldTokens_eq_ok_iff.1 hfields
    obtain rfl := Command.eq_of_make hown.makes hmake
    rw [ht.chain_of_last hresolves.mem hu hown.nests]
    exact ⟨⟨c, .last hresolves.mem⟩, Nat.le_add_left 1 _, ⟨c.id, []⟩, rfl,
      ht.pathTokens_singleton hresolves⟩
  · obtain ⟨d, rfl, rfl⟩ := Command.exists_delegate hu
    obtain ⟨w, rfl, hw⟩ := ht.exists_of_delegate hresolves hown.makes h
    rw [ht.chain_wrapValue hresolves.mem]
    have : sizeOf d.target < sizeOf t := sizeOf_nested_lt hresolves.mem d.nested?_eq
    obtain ⟨⟨c, hc⟩, hlength, q, hq, hpath⟩ := (ht.target hresolves).path_of_readTokens
      (hw (hown.keeps _ hu)) (hreads.tail hresolves hu)
    have hne : ts.take w.chain.length ≠ [] := by
      obtain ⟨_, _, _, _, htake, -⟩ := pathTokens_eq_ok_iff.1 hpath
      exact htake ▸ List.cons_ne_nil _ _
    refine ⟨⟨c, .cons hresolves.mem hu hc⟩, Nat.succ_le_succ hlength,
      ⟨d.command.id, q.ids⟩, congrArg (d.command.id :: ·) hq, ?_⟩
    exact (ht.pathTokens_below hresolves hu hne).trans (map_of_ok hpath)
termination_by sizeOf t

/-! ## Topics -/

/-- **A command is found by its id.** -/
theorem Built.memberWithId_eq (ht : Built t) {c : Member} (hc : c ∈ t.members) :
    t.memberWithId c.id = .ok c := by
  obtain ⟨i, rfl⟩ := List.mem_iff_get.1 hc
  rw [memberWithId, isRoot_of_fin i, if_neg Bool.false_ne_true]
  cases hfound : t.members.find? (·.id = (t.members.get i).id) with
  | none => exact absurd (decide_eq_true rfl) (List.find?_eq_none.1 hfound _ hc)
  | some d =>
    obtain ⟨j, rfl⟩ := List.mem_iff_get.1 (List.mem_of_find?_eq_some hfound)
    have hid : (t.members.get j).id = (t.members.get i).id := by simpa using List.find?_some hfound
    rw [ht.isNamed.eq_of_id_eq hid]

theorem Built.ask_eq (ht : Built t) {c : Member} (hc : c ∈ t.members) (asked : Asked) :
    ask c asked = .ok () := by
  rw [ask, (ht.isDeclared c hc).fault?_eq_none]

/-- Help on an id that another one follows is help of the type below its command. -/
theorem Built.topicFrom_below (ht : Built t) {c : Member} (hc : c ∈ t.members) {u : CommandType}
    (hu : c.subcommands? = some u) (hhelp : u.instead? "help" = none) (next : CommandId)
    (more : List CommandId) : t.topicFrom c.id (next :: more) = u.topicFrom next more := by
  rw [topicFrom, ht.memberWithId_eq hc]
  show (ask c .nested >>= _) = _
  rw [ht.ask_eq hc]
  simp only [hu, helpFault?_eq_none hhelp]
  rfl

/-- **Help follows a chain** to the command that it leads to.  It asks the type below each command
that another one follows. -/
theorem Built.topicFrom_of_reaches (ht : Built t) {head : CommandId} {below : List CommandId}
    {c : Member} (h : t.Reaches (head :: below) c)
    (hkeeps : t.KeepsAlong "help" (head :: below).dropLast) :
    t.topicFrom head below = .ok ⟨c.id.serial, c.topic⟩ := by
  generalize hids : head :: below = ids at h hkeeps
  induction h generalizing head below with
  | @last t c hc =>
    obtain ⟨rfl, rfl⟩ := List.cons.inj hids
    rw [topicFrom]
    exact except_bind_eq_ok_iff.2 ⟨c, ht.memberWithId_eq hc,
      except_bind_eq_ok_iff.2 ⟨(), ht.ask_eq hc _, rfl⟩⟩
  | @cons t u c last ids hc hu hbelow ih =>
    obtain ⟨rfl, rfl⟩ := List.cons.inj hids
    obtain ⟨next, more, rfl⟩ := List.exists_cons_of_ne_nil hbelow.ids_ne_nil
    rw [List.dropLast_cons_of_ne_nil (List.cons_ne_nil _ _)] at hkeeps
    rw [ht.topicFrom_below hc hu (hkeeps.head hc hu)]
    exact ih (ht.nested hc (nested?_of_subcommands? hu)) rfl (hkeeps.tail hc hu)

end CommandType

/-! ## The law -/

namespace CommandType

variable {t : CommandType}

/-- **A value, a path and a topic name the same command.**  Where nothing is replaced along the
tokens, the value has at most as many commands as there are tokens, the tokens up to this number are
parsed as the path of their ids, and help on these tokens is the topic of the last command, where
help is asked of the types along the chain themselves. -/
theorem parse_agrees_with_paths (ht : Built t) {ts : List String} {v : Value}
    (h : t.parse (.ofList ts) = .ok v) (hreads : t.ReadsAlong ts) :
    ∃ c, t.Reaches v.chain c ∧ v.chain.length ≤ ts.length ∧
      (∃ p, t.parsePath (.ofList (ts.take v.chain.length)) = .ok p ∧ p.ids = v.chain) ∧
      (t.instead? "parse_path" = none → t.KeepsAlong "help" v.chain →
        ∀ s : Session, ∃ s', Step.topicOfTokens t (.value (.texts (ts.take v.chain.length)))
          (.plain (.texts (ts.take v.chain.length))) s = .ok ⟨c.id.serial, c.topic⟩ s') := by
  obtain ⟨ts', hread⟩ := parse_ofList_eq_ok_iff.1 h
  obtain ⟨⟨c, hc⟩, hlength, p, hp, hpath⟩ := ht.path_of_readTokens hread hreads
  have hparsed := parsePath_ofList_eq_ok_iff.2 ⟨[], hpath⟩
  refine ⟨c, hc, hlength, ⟨p, hparsed, hp⟩, fun hreader hhelp s => ?_⟩
  rw [← hp] at hc hhelp
  have htopic : t.parsePath (.ofList (ts.take v.chain.length)) >>= t.topicOf
      = .ok ⟨c.id.serial, c.topic⟩ :=
    except_bind_eq_ok_iff.2 ⟨p, hparsed, ht.topicFrom_of_reaches hc
      (hhelp.of_prefix (List.dropLast_prefix _))⟩
  obtain ⟨s', hs'⟩ := Step.exists_topicOfTokens hreader (s.gives_texts (ts.take v.chain.length))
  rw [htopic] at hs'
  exact ⟨s', hs'⟩

end CommandType

/-! ## Samples -/

namespace Sample

open CommandType

/-- What is read as a command without a rest field is a chain of one. -/
theorem length_chain_of_readTokens {t : CommandType} (ht : Built t) {ts ts' : List String}
    {v : Value} (h : t.readTokens ts = .ok v ts') (hmakes : ∀ c ∈ t.members, c.MakesOwn)
    (hlast : ∀ c ∈ t.members, c.rest.isNone = true) : v.chain.length = 1 := by
  obtain ⟨c, hc, fields, rfl, -⟩ := exists_of_readTokens hmakes h
  have hrest := Option.isNone_iff_eq_none.1 (hlast c hc)
  rw [ht.chain_of_last hc (by rw [Command.subcommands?, hrest]) (by rw [Command.foreign?, hrest]),
    List.length_singleton]

/-- What holds of a nesting command, and at every depth of its target, holds at every depth. -/
theorem throughout_nesting {P : Member → Prop} {serial : Nat} {name doc : String}
    {target : CommandType} {constants : List (String × Datum)}
    (h : ∀ c ∈ (nesting serial name doc target constants).members, P c)
    (hbelow : target.Throughout P) : (nesting serial name doc target constants).Throughout P :=
  .intro h fun _ hc _ hu =>
    refersTo_nesting_iff (Tinygit.refersTo_of_mem hc (nested?_of_subcommands? hu)) ▸ hbelow

/-- What holds of commands without a rest field holds at every depth. -/
theorem throughout_of_last {P : Member → Prop} {t : CommandType} (h : ∀ c ∈ t.members, P c)
    (hlast : ∀ c ∈ t.members, c.rest.isNone = true) : t.Throughout P :=
  .intro h fun c hc _ hu => nomatch (Command.subcommands?_of_none (hlast c hc)).symm.trans hu

/-- A nesting command keeps a method where its target does, at every depth. -/
theorem keeps_nesting {serial : Nat} {name doc method : String} {target : CommandType}
    {constants : List (String × Datum)} (h : target.instead? method = none)
    (hbelow : target.Throughout (Command.Keeps method)) :
    (nesting serial name doc target constants).Throughout (Command.Keeps method) :=
  throughout_nesting (fun _ hc _ hu =>
    refersTo_nesting_iff (Tinygit.refersTo_of_mem hc (nested?_of_subcommands? hu)) ▸ h) hbelow

/-- In an ordinary type nothing is replaced. -/
theorem isUnreplaced_of_isOrdinary {t : CommandType} (h : Tinygit.IsOrdinary t) :
    t.Throughout Command.IsUnreplaced :=
  (h.makes.and (h.nests.and h.below)).mono fun _ ⟨hmakes, hnests, hbelow⟩ =>
    ⟨hmakes, hnests.foreign?_eq, fun u hu => (hbelow u (nested?_of_subcommands? hu)).parse⟩

/-- A type without rest fields keeps every method. -/
theorem keeps_of_last {t : CommandType} (method : String)
    (hlast : ∀ c ∈ t.members, c.rest.isNone = true) : t.Throughout (Command.Keeps method) :=
  throughout_of_last
    (fun c hc _ hu => nomatch (Command.subcommands?_of_none (hlast c hc)).symm.trans hu) hlast

/-- A command with the command `read` for its subcommand. -/
def taking : CommandType :=
  nesting 4 "Take" "`take [it...]` Take.\n\n# Arguments\nit: Command." reader []

theorem isOrdinary_taking : Tinygit.IsOrdinary taking :=
  isOrdinary_nesting isOrdinary_reader (List.forall_mem_nil _)

theorem built_taking : Built taking := isOrdinary_taking.built

theorem shape_taking : shape taking = [("take", true, some ("it", "it", false))] := by
  decide +kernel

theorem rest_reader : ∀ c ∈ reader.members, c.rest.isNone = true :=
  fun c hc => (forall_mem_reader.2 c hc).2.1

theorem keeps_taking : taking.Throughout (Command.Keeps "help") :=
  keeps_nesting (Tinygit.instead?_declared_eq_none rfl (by decide))
    (keeps_of_last "help" rest_reader)

theorem isUnreplaced_taking : taking.Throughout Command.IsUnreplaced :=
  isUnreplaced_of_isOrdinary isOrdinary_taking

/-- It is read from its name, that of its subcommand and a file. -/
theorem exists_parse_taking : ∃ v, taking.parse (.ofList ["take", "read", "x"]) = .ok v ∧
    v.chain.length = 2 := by
  obtain ⟨d, hresolves, htarget, hfree, -⟩ := exists_delegate_nesting built_taking shape_taking
  obtain ⟨-, w, hw⟩ := readTokens_reader
  refine ⟨d.wrapValue w, built_taking.parse_of_subcommand hresolves hfree
    (htarget ▸ isOrdinary_reader.readers.parse) (List.cons_ne_nil _ _)
    (htarget ▸ parse_ofList_eq_ok_iff.2 ⟨[], hw⟩), ?_⟩
  rw [built_taking.chain_wrapValue hresolves.mem, List.length_cons,
    length_chain_of_readTokens built_reader hw (fun _ hc => isOrdinary_reader.makes.of_mem hc)
      rest_reader]

/-- Of three tokens two are read as the path of the value, and lead to the topic of `read`. -/
theorem parse_agrees_with_paths_taking : Built taking ∧
    ∃ v c p, taking.parse (.ofList ["take", "read", "x"]) = .ok v ∧
      taking.ReadsAlong ["take", "read", "x"] ∧ taking.instead? "parse_path" = none ∧
      taking.KeepsAlong "help" v.chain ∧ taking.Reaches v.chain c ∧
      taking.parsePath (.ofList ["take", "read"]) = .ok p ∧ p.ids = v.chain ∧
      ∀ s : Session, ∃ s', Step.topicOfTokens taking (.value (.texts ["take", "read"]))
        (.plain (.texts ["take", "read"])) s = .ok ⟨c.id.serial, c.topic⟩ s' := by
  obtain ⟨v, hv, hlength⟩ := exists_parse_taking
  have hreads : taking.ReadsAlong ["take", "read", "x"] := .of_throughout isUnreplaced_taking _
  have hhelp : taking.KeepsAlong "help" v.chain := .of_throughout keeps_taking v.chain
  have hpath : taking.instead? "parse_path" = none := isOrdinary_taking.readers.parsePath
  obtain ⟨c, hc, -, ⟨p, hp, hids⟩, htopic⟩ := parse_agrees_with_paths built_taking hv hreads
  rw [hlength] at hp htopic
  exact ⟨built_taking, v, c, p, hv, hreads, hpath, hhelp, hc, hp, hids, htopic hpath hhelp⟩

/-- A token that names no command of a nested type is no path below it. -/
theorem parsePath_ne_ok {t u : CommandType} (ht : Built t) {c : Member} {token other : String}
    (h : t.ResolvesTo token c) (hu : c.subcommands? = some u) (hroot : u.isRoot = false)
    (hunknown : (u.resolve other).isOk = false) (p : CommandPath) :
    t.parsePath (.ofList [token, other]) ≠ .ok p := by
  rw [parsePath_ofList, ht.pathTokens_below h hu (List.cons_ne_nil _ _)]
  cases he : u.resolve other with
  | ok i =>
    rw [he] at hunknown
    cases hunknown
  | error e =>
    rw [map_of_error (pathTokens_of_unresolved hroot he [])]
    rintro ⟨⟩

/-- A value is made whatever token follows, and one that names no command is no path. -/
theorem exists_parse_doing : ∃ v, doing.parse (.ofList ["do", "zzz"]) = .ok v ∧
    v.chain.length = 2 ∧ ∀ p, doing.parsePath (.ofList ["do", "zzz"]) ≠ .ok p := by
  obtain ⟨d, hresolves, htarget, hfree, -⟩ := exists_delegate_nesting built_doing shape_doing
  obtain ⟨id, fields, hid, hcall⟩ := exists_call_reader
  have hunknown : files.isRoot = false ∧ (files.resolve "zzz").isOk = false := by decide +kernel
  have hanswer : d.target.answer ["zzz"] = .ok (.command id fields) := by
    rw [htarget, answer, instead?_files]
    show ((Shared.type reader).call [.thing Tokens.kindName 0]).mapError Misuse.fault = _
    rw [hcall]
    rfl
  refine ⟨d.wrapValue (.command id fields), ?_, ?_, parsePath_ne_ok built_doing hresolves
    (Command.subcommands?_of_rest d.rest_eq (htarget ▸ d.kind_eq)) hunknown.1 hunknown.2⟩
  · rw [built_doing.parse_of_delegate hresolves, if_neg fun h => List.cons_ne_nil _ _ h.1, hanswer,
      d.wrap_ok hfree]
  · rw [built_doing.chain_wrapValue hresolves.mem, Value.chain_of_not_delegates hid]
    rfl

theorem forall_mem_leaf : leaf.members ≠ [] ∧ ∀ c ∈ leaf.members, c.rest.isNone = true := by
  decide +kernel

section Inner

variable {method : String} (hmethod : method ∈ ["help", "names", "parse", "parse_path"])
include hmethod

/-- A leaf below `inner` is read, whatever the constant stands in the place of. -/
theorem exists_parse_inner :
    ∃ v, (inner [(method, .int 5)]).parse (.ofList ["inner", "leaf"]) = .ok v ∧
      v.chain.length = 2 := by
  have ht : Built (inner [(method, .int 5)]) := built_nesting built_leaf
  obtain ⟨d, hresolves, htarget, hfree, -⟩ :=
    exists_delegate_nesting ht (shape_inner method hmethod)
  obtain ⟨w, hw⟩ := exists_parse_leaf
  obtain ⟨ts', hread⟩ := parse_ofList_eq_ok_iff.1 hw
  refine ⟨d.wrapValue w, ht.parse_of_subcommand hresolves hfree
    (htarget ▸ isOrdinary_leaf.readers.parse) (List.cons_ne_nil _ _) (htarget ▸ hw), ?_⟩
  rw [ht.chain_wrapValue hresolves.mem, List.length_cons,
    length_chain_of_readTokens built_leaf hread (fun _ hc => isOrdinary_leaf.makes.of_mem hc)
      forall_mem_leaf.2]

end Inner

/-- A constant in the place of the reader of paths is what help on tokens calls. -/
theorem topicOfTokens_of_constant {t : CommandType} {x : Datum}
    (h : t.instead? "parse_path" = some (.constant x)) (source : Source) (v : Value) (s : Session) :
    Step.topicOfTokens t source v s = .error (.fault (Misuse.notCallable x.kindName).fault) s := by
  rw [Step.topicOfTokens, h]
  rfl

/-- Help ends at a type that has a constant in the place of it. -/
theorem topicFrom_of_constant {t u : CommandType} (ht : Built t) {c : Member} (hc : c ∈ t.members)
    (hu : c.subcommands? = some u) {x : Datum} (hx : u.instead? "help" = some (.constant x))
    {ids : List CommandId} (hne : ids ≠ []) :
    t.topicFrom c.id ids = .error (Misuse.notCallable x.kindName).fault := by
  obtain ⟨next, more, rfl⟩ := List.exists_cons_of_ne_nil hne
  rw [topicFrom, ht.memberWithId_eq hc]
  show (ask c .nested >>= _) = _
  rw [ht.ask_eq hc, hu]
  dsimp only
  rw [helpFault?, hx]
  rfl

/-- Help on tokens ends there too, where they are parsed as a path through such a type. -/
theorem exists_topicOfTokens_of_constant {t u : CommandType} (ht : Built t) {c : Member}
    (hc : c ∈ t.members) (hu : c.subcommands? = some u) {x : Datum}
    (hx : u.instead? "help" = some (.constant x)) (hreader : t.instead? "parse_path" = none)
    {ts : List String} {ids : List CommandId} (hne : ids ≠ [])
    (hpath : t.parsePath (.ofList ts) = .ok ⟨c.id, ids⟩) (s : Session) :
    ∃ s', Step.topicOfTokens t (.value (.texts ts)) (.plain (.texts ts)) s
      = .error (.fault (Misuse.notCallable x.kindName).fault) s' := by
  have htopic : t.parsePath (.ofList ts) >>= t.topicOf
      = .error (Misuse.notCallable x.kindName).fault := by
    rw [hpath]
    exact topicFrom_of_constant ht hc hu hx hne
  obtain ⟨s', hs'⟩ := Step.exists_topicOfTokens hreader (s.gives_texts ts)
  rw [htopic] at hs'
  exact ⟨s', hs'⟩

/-- A constant in the place of help stands in the place of no reader. -/
theorem isOrdinary_inner_help : Tinygit.IsOrdinary (inner [("help", .int 5)]) :=
  isOrdinary_nesting isOrdinary_leaf (by decide)

theorem isOrdinary_outer_help : Tinygit.IsOrdinary (outer [("help", .int 5)]) :=
  isOrdinary_nesting isOrdinary_inner_help (List.forall_mem_nil _)

/-- The three tokens are read as a path, but help stops at its second id. -/
theorem exists_parse_outer_help :
    ∃ v, (outer [("help", .int 5)]).parse (.ofList ["outer", "inner", "leaf"]) = .ok v ∧
      v.chain.length = 3 ∧
      ∀ s : Session, ∃ s', Step.topicOfTokens (outer [("help", .int 5)])
        (.value (.texts ["outer", "inner", "leaf"])) (.plain (.texts ["outer", "inner", "leaf"])) s
          = .error (.fault (Misuse.notCallable "int").fault) s' := by
  have ht := built_outer [("help", .int 5)]
  obtain ⟨d, hresolves, htarget, hfree, -⟩ :=
    exists_delegate_nesting ht (shape_outer "help" (by decide))
  obtain ⟨w, hw, hlength⟩ := exists_parse_inner (show "help" ∈ _ by decide)
  have hparse := ht.parse_of_subcommand hresolves hfree
    (htarget ▸ isOrdinary_inner_help.readers.parse) (List.cons_ne_nil _ _)
    (htarget ▸ hw)
  have hchain := ht.chain_wrapValue hresolves.mem w
  have hthree : (d.wrapValue w).chain.length = 3 := by rw [hchain, List.length_cons, hlength]
  obtain ⟨ts', hread⟩ := parse_ofList_eq_ok_iff.1 hparse
  obtain ⟨-, -, ⟨head, below⟩, hids, hpath⟩ := ht.path_of_readTokens hread
    (.of_throughout (isUnreplaced_of_isOrdinary isOrdinary_outer_help) _)
  rw [hthree] at hpath
  obtain ⟨rfl, rfl⟩ := List.cons.inj (hids.trans hchain)
  have hconstant : d.target.instead? "help" = some (.constant (.int 5)) := by
    rw [htarget]
    exact instead?_inner (by decide)
  exact ⟨d.wrapValue w, hparse, hthree, exists_topicOfTokens_of_constant ht hresolves.mem
    (Command.subcommands?_of_rest d.rest_eq d.kind_eq) hconstant
    isOrdinary_outer_help.readers.parsePath
    (List.ne_nil_of_length_pos (by omega)) (parsePath_ofList_eq_ok_iff.2 ⟨[], hpath⟩)⟩

/-! The three can disagree where a class body replaces what they ask. -/

/-- **A value may have no path**: a member named `parse` makes a value of whatever follows. -/
theorem parse_disagrees_with_path : ∃ v, Built doing ∧
    doing.parse (.ofList ["do", "zzz"]) = .ok v ∧ v.chain.length = 2 ∧
    ∀ p, doing.parsePath (.ofList ["do", "zzz"]) ≠ .ok p := by
  obtain ⟨v, hv, hlength, hpath⟩ := exists_parse_doing
  exact ⟨v, built_doing, hv, hlength, hpath⟩

/-- A value may have no topic: a constant in the place of the reader of paths stops help at once. -/
theorem parse_disagrees_with_help : ∃ v, Built (inner [("parse_path", .int 5)]) ∧
    (inner [("parse_path", .int 5)]).parse (.ofList ["inner", "leaf"]) = .ok v ∧
    v.chain.length = 2 ∧
    ∀ s : Session, ∃ s', Step.topicOfTokens (inner [("parse_path", .int 5)])
      (.value (.texts ["inner", "leaf"])) (.plain (.texts ["inner", "leaf"])) s
        = .error (.fault (Misuse.notCallable "int").fault) s' := by
  have hmethod : "parse_path" ∈ ["help", "names", "parse", "parse_path"] := by decide
  obtain ⟨v, hv, hlength⟩ := exists_parse_inner hmethod
  exact ⟨v, built_nesting built_leaf, hv, hlength,
    fun s => ⟨s, topicOfTokens_of_constant (instead?_inner hmethod) _ _ s⟩⟩

end Sample

end CommandSpec
