import CommandSpec.Proofs.Command.Chain

/-!
# Proofs/Command/Failures — every reading ends in a value or in a fault of its own

A reading of a list of tokens ends in a value or in a fault (`TokenReading.Ends`).  `PathFails` and
`Fails` say which faults these are: each arises in one way from the tokens, and names the command it
arises in and the argument that it is about.  Each part of a reader ends so because its parts do,
from the fields that take a token each to the whole command (`Built.ends_readTokens`), by recursion
on the type.  What a declaration checks leaves one other end, a value whose fields cannot be stored
(`Unmade`), if no root stands among the types that are read and no class body replaces what a
reading asks them for; and none, if all names are free besides.
-/

namespace CommandSpec

open TokenReading

/-! ## Endings -/

namespace TokenReading

variable {α β : Type} {ts : List String} {done : α → Prop} {failed : Fault → Prop}

/-- **A reading of some tokens ends** in a value of one kind, or in a fault of another. -/
def Ends (step : TokenReading α) (ts : List String) (done : α → Prop) (failed : Fault → Prop) :
    Prop :=
  (∃ a ts', step ts = .ok a ts' ∧ done a) ∨ ∃ e ts', step ts = .error e ts' ∧ failed e

variable {step : TokenReading α}

theorem ends_of_ok {a : α} {ts' : List String} (h : step ts = .ok a ts') (ha : done a) :
    Ends step ts done failed := .inl ⟨a, ts', h, ha⟩

theorem ends_of_error {e : Fault} {ts' : List String} (h : step ts = .error e ts')
    (he : failed e) : Ends step ts done failed := .inr ⟨e, ts', h, he⟩

/-- A step and what follows it end, if what follows ends after every value of the step. -/
theorem Ends.bind {next : α → TokenReading β} {done' : β → Prop} (h : Ends step ts done failed)
    (hnext : ∀ a ts', step ts = .ok a ts' → done a → Ends (next a) ts' done' failed) :
    Ends (step >>= next) ts done' failed := by
  obtain ⟨a, ts', ha, hdone⟩ | ⟨e, ts', he, hfailed⟩ := h
  · rw [Ends, bind_of_ok ha]
    exact hnext a ts' ha hdone
  · exact ends_of_error (bind_of_error he) hfailed

theorem Ends.mono {done' : α → Prop} {failed' : Fault → Prop} (h : Ends step ts done failed)
    (hdone : ∀ a, done a → done' a) (hfailed : ∀ e, failed e → failed' e) :
    Ends step ts done' failed' := by
  obtain ⟨a, ts', ha, h⟩ | ⟨e, ts', he, h⟩ := h
  · exact ends_of_ok ha (hdone a h)
  · exact ends_of_error he (hfailed e h)

theorem Ends.map {f : α → β} {done' : β → Prop} (h : Ends step ts done failed)
    (hdone : ∀ a, done a → done' (f a)) : Ends (f <$> step) ts done' failed := by
  obtain ⟨a, ts', ha, hdone'⟩ | ⟨e, ts', he, hfailed⟩ := h
  · exact ends_of_ok (map_of_ok ha) (hdone a hdone')
  · exact ends_of_error (map_of_error he) hfailed

/-- The faults of a step that belong to a family are wrapped. -/
theorem Ends.wrapping {belongs : Fault → Bool} {wrap : Fault → Fault} {failed' : Fault → Prop}
    (h : Ends step ts done failed)
    (hfailed : ∀ e, failed e → failed' (if belongs e then wrap e else e)) :
    Ends (wrapping belongs wrap step) ts done failed' := by
  obtain ⟨a, ts', ha, hdone⟩ | ⟨e, ts', he, hfail⟩ := h
  · exact ends_of_ok (wrapping_eq_ok_iff.2 ha) hdone
  · exact ends_of_error (wrapping_of_error he) (hfailed e hfail)

/-- What a reading ends with, whatever tokens are left. -/
theorem Ends.outcome (h : Ends step ts done failed) :
    (∃ a, outcome (step ts) = .ok a ∧ done a) ∨ ∃ e, outcome (step ts) = .error e ∧ failed e := by
  obtain ⟨a, ts', ha, hdone⟩ | ⟨e, ts', he, hfailed⟩ := h
  · exact .inl ⟨a, by rw [ha]; rfl, hdone⟩
  · exact .inr ⟨e, by rw [he]; rfl, hfailed⟩

end TokenReading

/-- A command that delegates reads its rest field with the reader of its target. -/
theorem Command.readsRest_of_subcommands? {c : Member} {u : CommandType}
    (hu : c.subcommands? = some u) (h : u.instead? "parse" = none) : c.ReadsRest := by
  obtain ⟨d, rfl, rfl⟩ := exists_delegate hu
  intro r hr
  obtain rfl := Option.some.inj (d.rest_eq.symm.trans hr)
  rw [RestField.standIn?, d.kind_eq]
  exact h

namespace CommandType

variable {t : CommandType} {token : String}

/-! ## What a declaration has checked -/

/-- **No root stands at or below a type**, and nothing that is no type. -/
inductive Rootless : CommandType → Prop
  | intro {t : CommandType} (isRoot_eq : t.isRoot = false)
    (nestsTypes : ∀ c ∈ t.members, c.NestsTypes)
    (nested : ∀ c ∈ t.members, ∀ u, c.nested? = some u → Rootless u) : Rootless t

theorem Rootless.isRoot_eq (h : t.Rootless) : t.isRoot = false := by
  obtain ⟨isRoot_eq, -, -⟩ := h
  exact isRoot_eq

theorem Rootless.nestsTypes (h : t.Rootless) : ∀ c ∈ t.members, c.NestsTypes := by
  obtain ⟨-, nestsTypes, -⟩ := h
  exact nestsTypes

theorem Rootless.nested (h : t.Rootless) {c : Member} (hc : c ∈ t.members) {u : CommandType}
    (hu : c.nested? = some u) : u.Rootless := by
  obtain ⟨-, -, nested⟩ := h
  exact nested c hc u hu

theorem Rootless.throughout_nestsTypes {t : CommandType} (h : t.Rootless) :
    t.Throughout Command.NestsTypes := by
  induction h with
  | intro _ nestsTypes _ ih =>
    exact .intro nestsTypes fun c hc u hu => ih c hc u (nested?_of_subcommands? hu)

/-- Names that can be those of parameters differ. -/
theorem nodup_of_checkNames {names : List String} (h : Parameter.checkNames names = .ok ()) :
    names.Nodup := by
  obtain ⟨_, -, h⟩ := except_bind_eq_ok_iff.1 h
  cases hrepeat : firstRepeat? names with
  | none => exact firstRepeat?_eq_none_iff.1 hrepeat
  | some name =>
    rw [hrepeat] at h
    cases h

/-- **The fields of a command** are named as the arguments of its usage, and no two are stored under
one attribute. -/
theorem Built.fields_of_mem (ht : Built t) : ∀ c ∈ t.members,
    c.required.map (·.name) ++ c.optional.map (·.name) ++ c.rest.toList.map (·.name)
      = c.docs.usage.names ∧ c.attributes.Nodup := by
  refine ht.of_mem fun m => ⟨Layout.names_eq m.layout_eq, ?_⟩
  rw [Command.attributes_eq]
  exact nodup_of_checkNames m.checkNames_eq

theorem Built.name_of_plain (ht : Built t) {c : Member} (hc : c ∈ t.members) {f : PlainField}
    (hf : f ∈ c.plain) : f.name ∈ c.docs.usage.names := by
  rw [← (ht.fields_of_mem c hc).1, ← List.map_append]
  exact List.mem_append_left _ (List.mem_map_of_mem hf)

theorem Built.name_of_rest (ht : Built t) {c : Member} (hc : c ∈ t.members)
    {r : RestField CommandType} (hr : c.rest = some r) : r.name ∈ c.docs.usage.names := by
  rw [← (ht.fields_of_mem c hc).1, hr]
  exact List.mem_append_right _ (List.mem_singleton_self _)

/-- The field that takes a token is named by an argument. -/
theorem Built.name_of_taker? (ht : Built t) {c : Member} (hc : c ∈ t.members) {j : Nat}
    {f : PlainField} (hf : c.taker? j = some f) : f.name ∈ c.docs.usage.names := by
  obtain hplain | ⟨-, hrest⟩ := Option.or_eq_some_iff.1 hf
  · exact ht.name_of_plain hc (List.mem_of_getElem? hplain)
  · obtain ⟨r, hr, -, hname, -⟩ := Command.exists_of_plainRest? hrest
    exact hname ▸ ht.name_of_rest hc hr

/-- A token that does not resolve gives a fault of identifiers. -/
theorem isIdFault_of_resolve {e : Fault} (h : t.resolve token = .error e) : e.isIdFault = true := by
  obtain rfl | ⟨_, rfl⟩ := Trie.error_of_lookup h
  · rfl
  · rfl

/-! ## Values and faults -/

/-- **A value is complete**: it is one of a command of the type, with one entry for each field, and
so is the value of its subcommand. -/
inductive IsComplete : CommandType → Value → Prop
  | command {t : CommandType} {c : Member} {fields : List (String × Value)} (hc : c ∈ t.members)
    (attributes_eq : fields.map (·.1) = c.attributes) (nodup : c.attributes.Nodup)
    (below : ∀ u, c.subcommands? = some u → ∀ f ∈ fields, IsComplete u f.2) :
    IsComplete t (.command c.id fields)

/-- A value is complete, if the commands of a type make their values by themselves. -/
def IsCompleteIfOwn (t : CommandType) (v : Value) : Prop :=
  t.Throughout Command.MakesOwn → t.IsComplete v

/-- **How tokens fail to be a path** of a type. -/
inductive PathFails : CommandType → List String → Fault → Prop
  /-- There is no token. -/
  | incomplete {t : CommandType} : PathFails t [] (.incompletePath t.names)
  /-- The first token resolves to no command. -/
  | badId {t : CommandType} {token : String} {ts : List String} {e : Fault}
    (he : t.resolve token = .error e) (hid : e.isIdFault = true) :
    PathFails t (token :: ts) (.badPathId e)
  /-- A token follows the name of a command that has no subcommands. -/
  | trailing {t : CommandType} {token extra : String} {ts : List String} {c : Member}
    (h : t.ResolvesTo token c) (hlast : c.subcommands? = none) :
    PathFails t (token :: extra :: ts) (.trailingPath extra)
  /-- What follows the name of a command fails to be a path of its subcommands. -/
  | nested {t u : CommandType} {token : String} {ts : List String} {c : Member} {e : Fault}
    (h : t.ResolvesTo token c) (hu : c.subcommands? = some u) (hne : ts ≠ [])
    (below : PathFails u ts e) : PathFails t (token :: ts) e

/-- **How tokens fail to be a command** of a type.  The fault names the command that the first token
resolves to by its canonical name, and its arguments as its usage does. -/
inductive Fails : CommandType → List String → Fault → Prop
  /-- There is no token. -/
  | noInput {t : CommandType} : Fails t [] .noInput
  /-- The first token resolves to no command. -/
  | badId {t : CommandType} {token : String} {ts : List String} {e : Fault}
    (he : t.resolve token = .error e) (hid : e.isIdFault = true) :
    Fails t (token :: ts) (.badId e)
  /-- There is no token for a required field. -/
  | missing {t : CommandType} {token : String} {ts : List String} {c : Member} {f : PlainField}
    (h : t.ResolvesTo token c) (hf : c.required[ts.length]? = some f)
    (harg : f.name ∈ c.docs.usage.names) : Fails t (token :: ts) (.missingRequired c.name f.name)
  /-- There is no token for a rest field that needs one. -/
  | missingRest {t : CommandType} {token : String} {ts : List String} {c : Member}
    {r : RestField CommandType} (h : t.ResolvesTo token c) (hr : c.rest = some r)
    (hrequired : r.required = true) (hleast : c.required.length ≤ ts.length)
    (hmost : ts.length ≤ c.plain.length)
    (harg : r.name ∈ c.docs.usage.names) : Fails t (token :: ts) (.missingRequired c.name r.name)
  /-- The field that takes a token refuses it. -/
  | refused {t : CommandType} {token text : String} {ts : List String} {c : Member} {j : Nat}
    {f : PlainField} {e : Fault} (h : t.ResolvesTo token c) (hf : c.taker? j = some f)
    (htext : ts[j]? = some text) (he : f.Refuses text e) (harg : f.name ∈ c.docs.usage.names) :
    Fails t (token :: ts) (.badConvert c.name f.name e)
  /-- The tokens that are left for a path fail to be one. -/
  | badPath {t u : CommandType} {token : String} {ts : List String} {c : Member}
    {r : RestField CommandType} {e : Fault} (h : t.ResolvesTo token c) (hr : c.rest = some r)
    (hkind : r.kind = .path u) (hne : ts.drop c.plain.length ≠ [])
    (below : u.PathFails (ts.drop c.plain.length) e)
    (hpath : e.isPathFault = true) (harg : r.name ∈ c.docs.usage.names) :
    Fails t (token :: ts) (.badConvert c.name r.name e)
  /-- A token is left after all fields. -/
  | trailing {t : CommandType} {token extra : String} {ts : List String} {c : Member}
    (h : t.ResolvesTo token c) (hrest : c.rest = none) (hextra : ts[c.plain.length]? = some extra) :
    Fails t (token :: ts) (.trailingArgument c.name extra)
  /-- What follows the name of a command fails to be one of its subcommands. -/
  | subcommand {t u : CommandType} {token : String} {ts : List String} {c : Member} {e : Fault}
    (h : t.ResolvesTo token c) (hu : c.subcommands? = some u) (below : Fails u ts e)
    (hcommand : e.isCommandFault = true) : Fails t (token :: ts) (.subcommand c.name e)

/-- **A value below a type cannot be made**: the fields of one of its commands, or of one that it
delegates to, cannot be stored. -/
inductive Unmade : CommandType → Fault → Prop
  | here {t : CommandType} {c : Member} {fields : List (String × Value)} {m : Misuse}
    (hc : c ∈ t.members) (hattrs : fields.map (·.1) = c.attributes)
    (h : c.make fields = .error m) : Unmade t m.fault
  | nested {t u : CommandType} {c : Member} {e : Fault} (hc : c ∈ t.members)
    (hu : c.subcommands? = some u) (h : Unmade u e) : Unmade t e

theorem Unmade.isCommandFault_eq {e : Fault} (h : t.Unmade e) : e.isCommandFault = false := by
  induction h with
  | here => rfl
  | nested _ _ _ ih => exact ih

/-- Where all names are free, every value can be made. -/
theorem Unmade.not_isFree {e : Fault} (h : t.Unmade e) : ¬ t.Throughout Command.IsFree := by
  induction h with
  | here hc hattrs h =>
    intro hfree
    rw [Command.make_eq (hfree.of_mem hc) fun f hf => hattrs ▸ List.mem_map_of_mem hf] at h
    cases h
  | nested hc hu _ ih => exact fun hfree => ih (hfree.nested hc hu)

theorem PathFails.isPathFault {ts : List String} {e : Fault} (h : t.PathFails ts e) :
    e.isPathFault = true := by
  induction h with
  | incomplete => rfl
  | badId => rfl
  | trailing => rfl
  | nested _ _ _ _ ih => exact ih

theorem Fails.isCommandFault {ts : List String} {e : Fault} (h : t.Fails ts e) :
    e.isCommandFault = true := by
  cases h <;> rfl

/-! ## Paths -/

/-- A token after the name of a command without subcommands is one too many. -/
theorem Built.pathTokens_of_last (ht : Built t) {c : Member} (hc : t.ResolvesTo token c)
    (hlast : c.subcommands? = none) (hforeign : c.foreign? = none) (extra : String)
    (ts : List String) : t.pathTokens (token :: extra :: ts) = .error (.trailingPath extra) ts := by
  rw [ht.pathTokens_cons hc]
  exact map_of_error (by rw [Command.belowTokens_of_none hlast hforeign]; rfl)

/-- **A path ends** in a valid one, or as tokens fail to be one. -/
theorem Built.ends_pathTokens {t : CommandType} (ht : Built t) (hroot : t.Rootless)
    {ts : List String} (hnames : ts = [] → t.namesFault? = none) :
    Ends t.pathTokens ts t.HasPath (t.PathFails ts) := by
  cases ts with
  | nil =>
    refine ends_of_error t.pathTokens_nil ?_
    rw [incompletePath, hroot.isRoot_eq, hnames rfl]
    exact .incomplete
  | cons token ts =>
  cases hi : t.resolve token with
  | error e =>
    exact ends_of_error (pathTokens_of_unresolved hroot.isRoot_eq hi ts)
      (.badId hi (isIdFault_of_resolve hi))
  | ok i =>
  have hc : t.ResolvesTo token (t.members.get i) := ⟨i, hi, rfl⟩
  cases ts with
  | nil => exact ends_of_ok (ht.pathTokens_singleton hc) ⟨_, .last hc.mem⟩
  | cons next ts =>
    obtain hu | ⟨u, hu⟩ := Option.eq_none_or_eq_some (t.members.get i).subcommands?
    · have hforeign := (hroot.nestsTypes _ hc.mem).foreign?_eq
      exact ends_of_error (ht.pathTokens_of_last hc hu hforeign next ts) (.trailing hc hu)
    · have hne : next :: ts ≠ [] := List.cons_ne_nil next ts
      have hnested := nested?_of_subcommands? hu
      have : sizeOf u < sizeOf t := sizeOf_nested_lt hc.mem hnested
      rw [Ends, ht.pathTokens_below hc hu hne]
      refine (((ht.nested hc.mem hnested).ends_pathTokens (hroot.nested hc.mem hnested)
        fun h => absurd h hne).mono (fun _ => id) fun e he => .nested hc hu hne he).map
        fun p hp => ?_
      obtain ⟨c, hbelow⟩ := hp
      exact ⟨c, .cons hc.mem hu hbelow⟩
termination_by sizeOf t

/-! ## The fields of a command -/

/-- What the rest field of a command holds is complete, if it is a subcommand. -/
def IsCompleteFor (c : Member) (v : Value) : Prop :=
  ∀ u, c.subcommands? = some u → u.IsCompleteIfOwn v

section Fields

variable {c : Member} {ts : List String}

theorem isCompleteFor_of_none (h : c.subcommands? = none) (v : Value) : IsCompleteFor c v :=
  fun _ hu => nomatch h.symm.trans hu

theorem isCompleteFor_of_some {u : CommandType} (h : c.subcommands? = some u) {v : Value}
    (hv : u.IsCompleteIfOwn v) : IsCompleteFor c v :=
  fun _ hu => Option.some.inj (h.symm.trans hu) ▸ hv

/-- A command that delegates has no field that takes one token. -/
theorem Built.plain_eq_nil (ht : Built t) (hc : c ∈ t.members) {u : CommandType}
    (hu : c.subcommands? = some u) : c.plain = [] := by
  obtain ⟨d, rfl, rfl⟩ := Command.exists_delegate hu
  obtain ⟨hrequired, hoptional⟩ :=
    (ht.isDeclared _ hc).plain_eq_nil d.field d.rest_eq d.target d.kind_eq
  rw [Command.plain, hrequired, hoptional, List.append_nil]

variable (ht : Built t) (hc : t.ResolvesTo token c)
include ht hc

/-- The fields that take a token each have their values, and what follows is left, or they fail. -/
theorem Built.plainTokens_or_fails (ts : List String) :
    c.required.length ≤ ts.length ∧
        c.plainTokens ts = .ok (PlainField.described c.plain ts) (ts.drop c.plain.length) ∨
      ∃ e ts', c.plainTokens ts = .error e ts' ∧ t.Fails (token :: ts) e := by
  have hcalled := (ht.isDeclared c hc.mem).called_eq
  obtain haccept | ⟨j, f, e, hrefuse⟩ := Takers.acceptAll_or_refuseAt (c.plain[·]?) ts
  · obtain hshort | hleast := Nat.lt_or_ge ts.length c.required.length
    · have harg := ht.name_of_plain hc.mem (List.mem_append_left _ (List.getElem_mem hshort))
      exact .inr ⟨_, _, Command.plainTokens_of_short haccept hshort,
        hcalled ▸ .missing hc (List.getElem?_eq_getElem hshort) harg⟩
    · exact .inl ⟨hleast, Command.plainTokens_of_acceptAll haccept hleast⟩
  · obtain ⟨text, htext, he⟩ := hrefuse.refused
    have hj : c.taker? j = some f := by rw [Command.taker?, hrefuse.taken, Option.some_or]
    exact .inr ⟨_, _, Command.plainTokens_of_refuseAt hrefuse,
      hcalled ▸ .refused hc hj htext he (ht.name_of_taker? hc.mem hj)⟩

/-- Without a rest field nothing may be left. -/
theorem Built.ends_nothingLeft (hr : c.rest = none) (ts : List String) :
    Ends (c.restTokens fun u _ => u.readTokens) (ts.drop c.plain.length) (· = [])
      (t.Fails (token :: ts)) := by
  cases hleft : ts.drop c.plain.length with
  | nil => exact ends_of_ok ((Command.restTokens_none_eq_ok_iff hr).2 ⟨rfl, rfl, rfl⟩) rfl
  | cons extra left =>
    have hextra : ts[c.plain.length]? = some extra := by
      rw [← List.head?_drop, hleft, List.head?_cons]
    rw [Ends, Command.restTokens_of_none hr]
    exact ends_of_error rfl ((ht.isDeclared c hc.mem).called_eq ▸ .trailing hc hr hextra)

/-- A plain rest field takes all tokens that are left, or refuses one. -/
theorem Built.ends_convertAll {f : PlainField} (hf : c.plainRest? = some f) (ts : List String) :
    Ends (convertAll c.called f.name f.converter) (ts.drop c.plain.length) (fun _ => True)
      (t.Fails (token :: ts)) := by
  obtain haccept | ⟨k, g, e, hrefuse⟩ :=
    Takers.acceptAll_or_refuseAt (fun _ => some f) (ts.drop c.plain.length)
  · exact ends_of_ok (convertAll_of_acceptAll haccept) trivial
  · obtain rfl : f = g := Option.some.inj hrefuse.taken
    obtain ⟨text, htext, he⟩ := hrefuse.refused
    have hk : c.taker? (c.plain.length + k) = some f := (c.taker?_add_length k).trans hf
    refine ends_of_error (convertAll_of_refuseAt hrefuse) ?_
    rw [(ht.isDeclared c hc.mem).called_eq]
    exact .refused hc hk (List.getElem?_drop.symm.trans htext) he (ht.name_of_taker? hc.mem hk)

variable (hroot : t.Rootless)
include hroot

/-- A path field takes the path that is left, or no path where no token is left and none is
needed. -/
theorem Built.ends_pathField {r : RestField CommandType} (hr : c.rest = some r)
    (hreads : r.standIn? = none) {u : CommandType} (hkind : r.kind = .path u)
    (hpresent : ts.drop c.plain.length = [] → r.required = false) :
    Ends (wrapping Fault.isPathFault (.badConvert c.called r.name) (u.pathFieldTokens r.required))
      (ts.drop c.plain.length) (fun _ => True) (t.Fails (token :: ts)) := by
  have hinstead : u.instead? (pathMethod r.required) = none := by
    rwa [RestField.standIn?, hkind] at hreads
  have hnested : c.nested? = some u := nested?_of_rest hr (by rw [hkind]; rfl)
  by_cases hnil : ts.drop c.plain.length = []
  · rw [hpresent hnil] at hinstead ⊢
    rw [hnil, pathFieldTokens, hinstead]
    exact ends_of_ok rfl trivial
  · have hpath := (ht.nested hc.mem hnested).ends_pathTokens (hroot.nested hc.mem hnested)
      fun h => absurd h hnil
    have hfield : Ends (u.pathFieldTokens r.required) (ts.drop c.plain.length) (fun _ => True)
        (u.PathFails (ts.drop c.plain.length)) := by
      rw [Ends, pathFieldTokens_eq r.required hinstead hnil]
      exact hpath.map fun _ _ => trivial
    refine hfield.wrapping fun e he => ?_
    rw [if_pos he.isPathFault, (ht.isDeclared c hc.mem).called_eq]
    exact .badPath hc hr hkind hnil he he.isPathFault (ht.name_of_rest hc.mem hr)

variable {failed : Fault → Prop} (hfails : ∀ e, t.Fails (token :: ts) e → failed e)
  (hnested : ∀ u, c.subcommands? = some u →
    Ends (wrapping Fault.isCommandFault (.subcommand c.name) u.readTokens) ts u.IsCompleteIfOwn
      failed)
include hfails hnested

/-- A rest field ends in a value, where there is a token if it needs one, or in a fault. -/
theorem Built.ends_restValue {r : RestField CommandType} (hr : c.rest = some r)
    (hreads : r.standIn? = none) (hpresent : ts.drop c.plain.length = [] → r.required = false) :
    Ends (c.restValue r fun u _ => u.readTokens) (ts.drop c.plain.length) (IsCompleteFor c)
      failed := by
  obtain ⟨name, attr, isRequired, kind⟩ := r
  cases kind with
  | tokens converter =>
    have hplain : c.plainRest? = some ⟨name, attr, converter⟩ := by rw [Command.plainRest?, hr]
    have hlast : c.subcommands? = none := by rw [Command.subcommands?, hr]
    exact ((ht.ends_convertAll hc hplain ts).mono (fun _ => id) hfails).map
      fun _ _ => isCompleteFor_of_none hlast _
  | path u =>
    have hlast : c.subcommands? = none := by rw [Command.subcommands?, hr]
    exact (ht.ends_pathField hc hroot hr hreads rfl hpresent).mono
      (fun v _ => isCompleteFor_of_none hlast v) hfails
  | subcommand u =>
    have hu : c.subcommands? = some u := Command.subcommands?_of_rest hr rfl
    have hinstead : u.instead? "parse" = none := hreads
    have hleft : ts.drop c.plain.length = ts := by
      rw [ht.plain_eq_nil hc.mem hu]
      rfl
    rw [Ends, Command.restValue_of_subcommand rfl, hinstead, hleft,
      (ht.isDeclared c hc.mem).called_eq]
    exact (hnested u hu).mono (fun v hv => isCompleteFor_of_some hu hv) fun _ => id
  | foreign isPath callable => cases hroot.nestsTypes c hc.mem _ hr

/-- **The rest of a command** ends in a value for the rest field, if there is one, or in a fault. -/
theorem Built.ends_restTokens (hreads : c.ReadsRest) (hleast : c.required.length ≤ ts.length) :
    Ends (c.restTokens fun u _ => u.readTokens) (ts.drop c.plain.length)
      (fun fields => fields.map (·.1) = c.rest.toList.map (·.attr) ∧
        ∀ f ∈ fields, IsCompleteFor c f.2) failed := by
  obtain hr | ⟨r, hr⟩ := Option.eq_none_or_eq_some c.rest
  · refine (ht.ends_nothingLeft hc hr ts).mono ?_ hfails
    rintro _ rfl
    exact ⟨by rw [hr]; rfl, List.forall_mem_nil _⟩
  rw [Ends, Command.restTokens_eq_of_some hr]
  by_cases hmissing : ts.drop c.plain.length = [] ∧ r.required = true
  · rw [if_pos hmissing]
    exact ends_of_error rfl (hfails _ ((ht.isDeclared c hc.mem).called_eq ▸ .missingRest hc hr
      hmissing.2 hleast (List.drop_eq_nil_iff.1 hmissing.1) (ht.name_of_rest hc.mem hr)))
  · rw [if_neg hmissing]
    have hpresent : ts.drop c.plain.length = [] → r.required = false := fun hnil =>
      Bool.eq_false_iff.2 fun hrequired => hmissing ⟨hnil, hrequired⟩
    refine (ht.ends_restValue hc hroot hfails hnested hr (hreads r hr) hpresent).map fun v hv => ?_
    exact ⟨by rw [hr]; rfl, List.forall_mem_singleton.2 hv⟩

/-- **A command ends** after its name in a value, or as its tokens fail to be one, or as its value
cannot be made. -/
theorem Built.ends_fieldTokens (hreads : c.ReadsRest)
    (hmake : ∀ fields, fields.map (·.1) = c.attributes → ∀ m, c.make fields = .error m →
      failed m.fault) :
    Ends (c.fieldTokens fun u _ => u.readTokens) ts t.IsCompleteIfOwn failed := by
  rw [Ends, Command.fieldTokens_eq]
  obtain ⟨hleast, hplain⟩ | ⟨e, ts', he, hrefused⟩ := ht.plainTokens_or_fails hc ts
  · rw [bind_of_ok hplain]
    refine (ht.ends_restTokens hc hroot hfails hnested hreads hleast).bind
      fun rest ts' _ hrest => ?_
    obtain ⟨hattr, hcomplete⟩ := hrest
    have hattrs : (PlainField.described c.plain ts ++ rest).map (·.1) = c.attributes := by
      rw [List.map_append, PlainField.map_fst_described, hattr, Command.attributes_eq,
        Command.plain, List.map_append]
    cases hv : c.make (PlainField.described c.plain ts ++ rest) with
    | error m => exact ends_of_error rfl (hmake _ hattrs m hv)
    | ok v =>
      refine ends_of_ok rfl fun hmakes => ?_
      obtain rfl := Command.eq_of_make (hmakes.of_mem hc.mem) hv
      refine .command hc.mem hattrs (ht.fields_of_mem c hc.mem).2 fun u hu f hf => ?_
      rw [ht.plain_eq_nil hc.mem hu] at hf
      exact hcomplete f hf u hu (hmakes.nested hc.mem hu)
  · exact ends_of_error (bind_of_error he) (hfails e hrefused)

end Fields

/-- **A command ends** in a value, or as its tokens fail to be one, or as a value cannot be made.
The value is complete, if the commands make their values by themselves. -/
theorem Built.ends_readTokens_or_unmade {t : CommandType} (ht : Built t) (hroot : t.Rootless)
    (hreads : t.Throughout Command.ReadsRest) (ts : List String) :
    Ends t.readTokens ts t.IsCompleteIfOwn fun e => t.Fails ts e ∨ t.Unmade e := by
  cases ts with
  | nil => exact ends_of_error t.readTokens_nil (.inl .noInput)
  | cons token ts =>
  cases hi : t.resolve token with
  | error e =>
    exact ends_of_error (readTokens_of_unresolved hroot.isRoot_eq hi ts)
      (.inl (.badId hi (isIdFault_of_resolve hi)))
  | ok i =>
    have hc : t.ResolvesTo token (t.members.get i) := ⟨i, hi, rfl⟩
    rw [Ends, ht.readTokens_of_resolvesTo hc]
    refine ht.ends_fieldTokens hc hroot (fun _ => .inl) (fun u hu => ?_) (hreads.of_mem hc.mem)
      fun fields hattrs m hm => .inr (.here hc.mem hattrs hm)
    have hnested := nested?_of_subcommands? hu
    have : sizeOf u < sizeOf t := sizeOf_nested_lt hc.mem hnested
    refine ((ht.nested hc.mem hnested).ends_readTokens_or_unmade (hroot.nested hc.mem hnested)
      (hreads.nested hc.mem hu) ts).wrapping fun e he => ?_
    obtain hfails | hunmade := he
    · rw [if_pos hfails.isCommandFault]
      exact .inl (.subcommand hc hu hfails hfails.isCommandFault)
    · rw [if_neg (Bool.eq_false_iff.1 hunmade.isCommandFault_eq)]
      exact .inr (.nested hc.mem hu hunmade)
termination_by sizeOf t

/-- A command whose values can be made ends in one, or as its tokens fail to be one. -/
theorem Built.ends_readTokens (ht : Built t) (hroot : t.Rootless)
    (hfree : t.Throughout Command.IsFree) (hreads : t.Throughout Command.ReadsRest)
    (ts : List String) : Ends t.readTokens ts t.IsComplete (t.Fails ts) :=
  (ht.ends_readTokens_or_unmade hroot hreads ts).mono
    (fun _ hv => hv (hfree.mono fun _ => Command.IsFree.makesOwn)) fun _ he =>
    he.resolve_right fun hunmade => hunmade.not_isFree hfree

/-! ## The law -/

/-- **Every reading ends in a value or in a fault of its own.**  Where no root stands among the
types that are read, tokens are parsed as a complete command or fail to be one, if the values of the
commands can be made and each rest field is read by the method of its type; and they are parsed as a
valid path or fail to be one, if the type can tell its names where there is no token. -/
theorem parse_ends (ht : Built t) (hroot : t.Rootless) (ts : List String) :
    (t.Throughout Command.IsFree → t.Throughout Command.ReadsRest →
      (∃ v, t.parse (.ofList ts) = .ok v ∧ t.IsComplete v) ∨
        ∃ e, t.parse (.ofList ts) = .error e ∧ e.isCommandFault = true ∧ t.Fails ts e) ∧
    ((ts = [] → t.namesFault? = none) →
      (∃ p, t.parsePath (.ofList ts) = .ok p ∧ t.HasPath p) ∨
        ∃ e, t.parsePath (.ofList ts) = .error e ∧ e.isPathFault = true ∧ t.PathFails ts e) := by
  rw [parse_ofList, parsePath_ofList]
  refine ⟨fun hfree hreads => ?_, fun hnames => ?_⟩
  · exact (ht.ends_readTokens hroot hfree hreads ts).outcome.imp id fun ⟨e, he, hfails⟩ =>
      ⟨e, he, hfails.isCommandFault, hfails⟩
  · exact (ht.ends_pathTokens hroot hnames).outcome.imp id fun ⟨e, he, hfails⟩ =>
      ⟨e, he, hfails.isPathFault, hfails⟩

end CommandType

/-! ## Samples -/

namespace Sample

open CommandType
open Tinygit (declared declaration textField)

/-- A type of commands without rest fields has no root at or below it. -/
theorem rootless_of_last {t : CommandType} (hne : t.members ≠ [])
    (hlast : ∀ c ∈ t.members, c.rest.isNone = true) : t.Rootless := by
  refine .intro (isRoot_of_ne_nil hne) (fun c hc r hr => ?_) fun c hc u hu => ?_
  · rw [Option.isNone_iff_eq_none.1 (hlast c hc)] at hr
    cases hr
  · rw [Command.nested?, Option.isNone_iff_eq_none.1 (hlast c hc)] at hu
    cases hu

theorem rootless_nesting {serial : Nat} {name doc : String} {target : CommandType}
    {constants : List (String × Datum)}
    (hroot : (nesting serial name doc target constants).isRoot = false)
    (htarget : target.Rootless) :
    (nesting serial name doc target constants).Rootless :=
  .intro hroot (fun _ hc => (nestsTypes_nesting htarget.throughout_nestsTypes).of_mem hc)
    fun _ hc _ hu => refersTo_nesting_iff (Tinygit.refersTo_of_mem hc hu) ▸ htarget

theorem rootless_taking : taking.Rootless :=
  rootless_nesting (isRoot_of_shape shape_taking)
    (rootless_of_last forall_mem_reader.1 rest_reader)

/-- A shape says of each command that it is free and delegates. -/
theorem of_mem_of_shape {t : CommandType} {name arg attr : String} {isRequired : Bool}
    (h : shape t = [(name, true, some (arg, attr, isRequired))]) {c : Member} (hc : c ∈ t.members) :
    c.IsFree ∧ ∃ u, c.subcommands? = some u := by
  have hseen : (c.name, decide c.IsFree, c.subcommands?.bind fun _ => c.rest.map fun r =>
      (r.name, r.attr, r.required)) ∈ shape t := List.mem_map_of_mem hc
  rw [h, List.mem_singleton, Prod.mk.injEq, Prod.mk.injEq] at hseen
  obtain ⟨-, hfree, hrest⟩ := hseen
  obtain ⟨u, hu, -⟩ := Option.bind_eq_some_iff.1 hrest
  exact ⟨of_decide_eq_true hfree, u, hu⟩

theorem isFree_taking : taking.Throughout Command.IsFree :=
  throughout_nesting (fun _ hc => (of_mem_of_shape shape_taking hc).1)
    (throughout_of_last (fun c hc => (forall_mem_reader.2 c hc).2.2.2.2.1) rest_reader)

theorem readsRest_taking : taking.Throughout Command.ReadsRest := by
  refine throughout_nesting (fun c hc => ?_) readsRest_reader
  obtain ⟨-, u, hu⟩ := of_mem_of_shape shape_taking hc
  exact Command.readsRest_of_subcommands? hu ((isUnreplaced_taking.of_mem hc).keeps u hu)

/-- `take read x` is a complete command, and no token at all is no path. -/
theorem parse_ends_taking : Built taking ∧ taking.Rootless ∧ taking.Throughout Command.IsFree ∧
    taking.Throughout Command.ReadsRest ∧
    (∃ v, taking.parse (.ofList ["take", "read", "x"]) = .ok v ∧ taking.IsComplete v) ∧
    taking.namesFault? = none ∧
    ∃ e, taking.parsePath (.ofList []) = .error e ∧ e.isPathFault = true ∧
      taking.PathFails [] e := by
  have hnames : taking.namesFault? = none := by
    rw [namesFault?, taking, nesting, Tinygit.instead?_declared_eq_none rfl (by decide)]
    rfl
  obtain ⟨w, hw, -⟩ := exists_parse_taking
  refine ⟨built_taking, rootless_taking, isFree_taking, readsRest_taking, ?_, hnames, ?_⟩
  · refine ((parse_ends built_taking rootless_taking _).1 isFree_taking
      readsRest_taking).resolve_right ?_
    rintro ⟨e, he, -⟩
    cases hw.symm.trans he
  · refine ((parse_ends built_taking rootless_taking []).2 fun _ => hnames).resolve_left ?_
    rintro ⟨p, hp, -⟩
    rw [parsePath_ofList, pathTokens_nil] at hp
    cases hp

/-- A command is not parsed if its value cannot be made. -/
theorem parse_of_unmadeBy {t : CommandType} (ht : Built t) {token kind message : String}
    {ts : List String} (h : t.members ≠ [] ∧ ∀ c ∈ t.members, c.name = token ∧
      c.rest.isNone = true ∧ c.required.length = ts.length ∧ Takers.AcceptAll c.taker? ts ∧
      unmadeBy c (c.values ts) = some (kind, message)) :
    t.Rootless ∧ t.parse (.ofList (token :: ts)) = .error (.foreign kind message) := by
  refine ⟨rootless_of_last h.1 fun c hc => (h.2 c hc).2.1, ?_⟩
  obtain ⟨c, hc, -, hrest, hrequired, hall, hfault⟩ := ht.exists_resolvesTo h
  exact (ht.parse_of_exact hc (Option.isNone_iff_eq_none.1 hrest) ts hrequired hall).trans
    (mapError_of_unmadeBy hfault)

theorem rootless_leaf : leaf.Rootless := rootless_of_last forall_mem_leaf.1 forall_mem_leaf.2

theorem rootless_inner {method : String}
    (h : method ∈ ["help", "names", "parse", "parse_path"]) :
    (inner [(method, .int 5)]).Rootless := rootless_nesting (isRoot_inner h) rootless_leaf

/-- A command that takes the path of a command below `inner`, where the body of this holds a
constant in the place of the reader of paths. -/
def finding : CommandType :=
  declared 5 (declaration .command "Find" (some "`find <it...>` Find.\n\n# Arguments\nit: Path.")
    [("it", .field ⟨.type (inner [("parse_path", .int 5)]), true⟩)] false)

theorem built_finding : Built finding := by
  refine Tinygit.built_declared fun u hu => ?_
  exact List.mem_singleton.1 hu ▸ built_nesting built_leaf

theorem forall_mem_finding : finding.members ≠ [] ∧ ∀ c ∈ finding.members, c.name = "find" ∧
    c.required.isEmpty = true ∧ c.optional.isEmpty = true ∧ c.nested?.isSome = true ∧
    c.subcommands?.isNone = true ∧ ∀ r ∈ c.rest, r.required = true := by
  decide +kernel

theorem nested_finding {c : Member} (hc : c ∈ finding.members) {u : CommandType}
    (hu : c.nested? = some u) : u = inner [("parse_path", .int 5)] :=
  List.mem_singleton.1 (Tinygit.refersTo_of_mem hc hu)

theorem rootless_finding : finding.Rootless := by
  have hinner : (inner [("parse_path", .int 5)]).Rootless := rootless_inner (by decide)
  have hnests : finding.Throughout Command.NestsTypes :=
    Tinygit.throughout_declared (fun m => m.nestsTypes fun attr a f ha hf => by
      cases List.mem_singleton.1 ha
      cases hf) fun u hu => List.mem_singleton.1 hu ▸ hinner.throughout_nestsTypes
  exact .intro (isRoot_of_ne_nil forall_mem_finding.1) (fun _ hc => hnests.of_mem hc)
    fun _ hc _ hu => nested_finding hc hu ▸ hinner

/-- Its command takes a path that needs a token, and nothing else. -/
theorem exists_path_finding : ∃ c name attr, finding.ResolvesTo "find" c ∧ c.required = [] ∧
    c.optional = [] ∧
    c.rest = some ⟨name, attr, true, .path (inner [("parse_path", .int 5)])⟩ := by
  obtain ⟨c, hc, -, hrequired, hoptional, hnested, hlast, hrest⟩ :=
    built_finding.exists_resolvesTo forall_mem_finding
  obtain ⟨u, hu⟩ := Option.isSome_iff_exists.1 hnested
  obtain rfl := nested_finding hc.mem hu
  obtain ⟨⟨name, attr, isRequired, kind⟩, hr, rfl⟩ :=
    Command.exists_path hu (Option.isNone_iff_eq_none.1 hlast)
  obtain rfl : isRequired = true := hrest _ hr
  exact ⟨c, name, attr, hc, List.isEmpty_iff.1 hrequired, List.isEmpty_iff.1 hoptional, hr⟩

/-- A path cannot be read with a constant. -/
theorem parse_finding : finding.parse (.ofList ["find", "inner"])
    = .error (Misuse.notCallable "int").fault := by
  obtain ⟨c, name, attr, hc, hrequired, hoptional, hr⟩ := exists_path_finding
  rw [built_finding.parse_of_resolvesTo hc, Command.fieldTokens_of_nil hrequired hoptional,
    outcome_bind_check, Command.restTokens_eq_of_some hr, if_neg fun h => List.cons_ne_nil _ _ h.1,
    outcome_map]
  show (outcome (wrapping _ _ ((inner [("parse_path", .int 5)]).pathFieldTokens true) _)).map _
    >>= _ = _
  rw [pathFieldTokens, pathMethod, if_pos rfl, instead?_inner (by decide)]
  rfl

/-- A path cannot end at a type that holds a constant for its names. -/
theorem parsePath_inner_names : (inner [("names", .int 5)]).parsePath (.ofList [])
    = .error (Misuse.notCallable "int").fault := by
  have hmethod : "names" ∈ ["help", "names", "parse", "parse_path"] := by decide
  rw [parsePath_ofList, pathTokens_nil, incompletePath, isRoot_inner hmethod, namesFault?,
    instead?_inner hmethod]
  rfl

/-- A command whose only field has a name that its type takes for itself. -/
def hidden : CommandType :=
  declared 1 (declaration .command "Show"
    (some "`show <__docs__>` Show.\n\n# Arguments\n__docs__: Text.") [textField "__docs__"] false)

theorem built_hidden : Built hidden := by
  refine Tinygit.built_declared fun u hu => ?_
  cases hu

/-! A reading can end in a fault from elsewhere. -/

/-- **A value cannot be made** where a constant stands in the place of what makes it. -/
theorem parse_ends_unmade : Built unmade ∧ unmade.Rootless ∧
    unmade.parse (.ofList ["run"])
      = .error (.foreign "TypeError" "'int' object is not callable") :=
  ⟨built_unmade, parse_of_unmadeBy built_unmade (by decide +kernel)⟩

/-- A field cannot be stored where it is hidden. -/
theorem parse_ends_hidden : Built hidden ∧ hidden.Rootless ∧
    hidden.parse (.ofList ["show", "x"]) = .error
      (.foreign "AttributeError" "'Show' object attribute '__docs__' is read-only") :=
  ⟨built_hidden, parse_of_unmadeBy built_hidden (by decide +kernel)⟩

/-- A subcommand cannot be read where a constant stands in the place of the method. -/
theorem parse_ends_unread : Built (outer [("parse", .int 5)]) ∧
    (outer [("parse", .int 5)]).Rootless ∧
    (outer [("parse", .int 5)]).parse (.ofList ["outer", "inner", "leaf"])
      = .error (.foreign "TypeError" "'int' object is not callable") :=
  ⟨built_outer _, rootless_nesting (isRoot_of_shape (shape_outer "parse" (by decide)))
    (rootless_inner (by decide)), parse_outer_parse⟩

/-- Nor can a path field. -/
theorem parse_ends_without_path : Built finding ∧ finding.Rootless ∧
    finding.parse (.ofList ["find", "inner"])
      = .error (.foreign "TypeError" "'int' object is not callable") :=
  ⟨built_finding, rootless_finding, parse_finding⟩

/-- A path cannot end where a constant stands in the place of the names. -/
theorem parsePath_ends_unnamed : Built (inner [("names", .int 5)]) ∧
    (inner [("names", .int 5)]).Rootless ∧
    (inner [("names", .int 5)]).parsePath (.ofList [])
      = .error (.foreign "TypeError" "'int' object is not callable") :=
  ⟨built_nesting built_leaf, rootless_inner (by decide), parsePath_inner_names⟩

end Sample

end CommandSpec
