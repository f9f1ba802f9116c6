import CommandSpec.Proofs.Command.Built

/-!
# Proofs/Command/Texts — commands that keep their tokens as they are

The fields of a declaration keep tokens as they are unless they say otherwise.  What a declaration
says holds of the command that is made of it (`Making.takesTexts`, `Making.keepsReaders`), and what
holds of each declaration holds of a type at every depth (`Throughout.of_declare`).
-/

namespace CommandSpec

/-- A command whose plain fields keep their tokens as they are. -/
structure Command.TakesTexts (c : Member) : Prop where
  required : ∀ f ∈ c.required, f.converter = .text
  optional : ∀ f ∈ c.optional, f.converter = .text
  rest : ∀ r ∈ c.rest, ∀ converter, r.kind = .tokens converter → converter = .text

/-- A type that has nothing in the place of the methods that read. -/
structure CommandType.KeepsReaders (t : CommandType) : Prop where
  parse : t.instead? "parse" = none
  parsePath : t.instead? "parse_path" = none
  parsePathOpt : t.instead? "parse_path_opt" = none

/-- A command whose nested types have nothing in the place of the methods that read. -/
def Command.KeepsReaders (c : Member) : Prop := ∀ u, c.nested? = some u → u.KeepsReaders

/-- A declaration whose plain fields keep their tokens as they are. -/
def Declaration.TakesTexts (d : Declaration) : Prop :=
  d.delegates = false → ∀ attr a, (attr, BodyEntry.field a) ∈ d.body → a.isPath = false →
    a.conversion = .function .text

/-- A command that hands its tokens to nothing but a command type. -/
def Command.NestsTypes (c : Member) : Prop := ∀ r ∈ c.rest, r.kind.foreign? = none

/-- A declaration none of whose functions has methods. -/
def Declaration.NestsTypes (d : Declaration) : Prop :=
  ∀ attr a f, (attr, BodyEntry.field a) ∈ d.body → a.conversion = .function f →
    ∀ method, f.reader? method = none

/-- A declaration with nothing in the place of the methods that read, and of what makes values. -/
structure Declaration.KeepsReaders (d : Declaration) : Prop where
  parse : d.body.lookup "parse" = none
  parsePath : d.body.lookup "parse_path" = none
  parsePathOpt : d.body.lookup "parse_path_opt" = none
  maker : d.body.lookup Command.makerName = none

/-- A rest field that is read as a command makes its type that of the subcommands. -/
theorem Command.subcommands?_of_rest {c : Member} {r : RestField CommandType} {u : CommandType}
    (hr : c.rest = some r) (hkind : r.kind = .subcommand u) : c.subcommands? = some u := by
  obtain ⟨name, attr, isRequired, kind⟩ := r
  obtain rfl : kind = .subcommand u := hkind
  rw [Command.subcommands?, hr]

/-- A nested type that is none of subcommands is that of a path. -/
theorem Command.exists_path {c : Member} {u : CommandType} (hu : c.nested? = some u)
    (hlast : c.subcommands? = none) : ∃ r, c.rest = some r ∧ r.kind = .path u := by
  obtain ⟨⟨name, attr, isRequired, kind⟩, hr, hkind⟩ := Option.bind_eq_some_iff.1 hu
  refine ⟨_, hr, ?_⟩
  cases kind with
  | tokens converter => cases hkind
  | path w => exact congrArg RestKind.path (Option.some.inj hkind)
  | subcommand w => cases (subcommands?_of_rest hr rfl).symm.trans hlast
  | foreign isPath callable => cases hkind

/-- A command that hands its tokens to nothing but a type delegates to nothing else. -/
theorem Command.NestsTypes.foreign?_eq {c : Member} (hc : c.NestsTypes) : c.foreign? = none := by
  unfold foreign?
  split
  · next hr => exact nomatch hc _ hr
  · rfl

namespace CommandType

/-- A property of every command that a type reads, at any depth. -/
inductive Throughout (P : Member → Prop) : CommandType → Prop
  | intro {t : CommandType} (of_mem : ∀ c ∈ t.members, P c)
    (nested : ∀ c ∈ t.members, ∀ u, c.subcommands? = some u → Throughout P u) : Throughout P t

namespace Throughout

variable {P : Member → Prop} {t : CommandType}

theorem of_mem (h : t.Throughout P) {c : Member} (hc : c ∈ t.members) : P c := by
  obtain ⟨of_mem, -⟩ := h
  exact of_mem c hc

theorem nested (h : t.Throughout P) {c : Member} (hc : c ∈ t.members) {u : CommandType}
    (hu : c.subcommands? = some u) : u.Throughout P := by
  obtain ⟨-, nested⟩ := h
  exact nested c hc u hu

theorem root (kind : Kind) : (CommandType.root kind).Throughout P :=
  .intro (fun _ hc => nomatch hc) fun _ hc => nomatch hc

theorem and {Q : Member → Prop} (hP : t.Throughout P) (hQ : t.Throughout Q) :
    t.Throughout fun c => P c ∧ Q c := by
  induction hP with
  | intro of_mem _ ih =>
    exact .intro (fun c hc => ⟨of_mem c hc, hQ.of_mem hc⟩)
      fun c hc u hu => ih c hc u hu (hQ.nested hc hu)

theorem mono {Q : Member → Prop} (hP : t.Throughout P) (h : ∀ c, P c → Q c) : t.Throughout Q := by
  induction hP with
  | intro of_mem _ ih => exact .intro (fun c hc => h c (of_mem c hc)) ih

/-- **What holds of the commands of a declaration** and of the types that it refers to holds of its
type at every depth. -/
theorem of_declare {serial : Nat} {d : Declaration} {log log' : List Event}
    (h : declare serial d log = .ok t log')
    (hd : ∀ m : Making serial d, P m.command)
    (below : ∀ u, d.RefersTo u → u.Throughout P) : t.Throughout P := by
  rcases CommandType.of_declare h with h | h
  · obtain ⟨m, rfl, -⟩ := exists_making h
    refine .intro (fun c hc => ?_) fun c hc u hu => ?_
    · obtain rfl := List.mem_singleton.1 hc
      exact hd m
    · obtain rfl := List.mem_singleton.1 hc
      exact below u (m.refersTo (nested?_of_subcommands? hu))
  · obtain ⟨-, -, -, -, hmembers⟩ := of_declareFamily h
    have hself : ∀ c : Member, c ∈ (single c).members := fun c => List.mem_singleton_self c
    refine .intro (fun c hc => ?_) fun c hc u hu => ?_
    · exact (below _ (hmembers c hc)).of_mem (hself c)
    · exact (below _ (hmembers c hc)).nested (hself c) hu

end Throughout

end CommandType

/-! ## Declared commands -/

/-- **A declaration that keeps tokens as they are** declares a command that does. -/
theorem CommandType.Making.takesTexts {serial : Nat} {d : Declaration} (m : Making serial d)
    (hd : d.TakesTexts) : m.command.TakesTexts := by
  have htexts := Layout.takesTexts m.layout_eq fun hdelegates attr a ha hpath =>
    hd hdelegates attr a (mem_of_fieldsOf m.fieldsOf_eq ha) hpath
  exact ⟨fun f hf => htexts.1 f (List.mem_append_left _ hf),
    fun f hf => htexts.1 f (List.mem_append_right _ hf), htexts.2⟩

/-- The nested types of a command are those that its declaration refers to. -/
theorem CommandType.Making.keepsReaders {serial : Nat} {d : Declaration} (m : Making serial d)
    (hd : ∀ u, d.RefersTo u → u.KeepsReaders) : m.command.KeepsReaders :=
  fun u hu => hd u (m.refersTo hu)

/-- **A declaration without other callables that have methods** declares a command that nests types
only. -/
theorem CommandType.Making.nestsTypes {serial : Nat} {d : Declaration} (m : Making serial d)
    (hd : d.NestsTypes) : m.command.NestsTypes := by
  intro r hr
  rw [Option.eq_none_iff_forall_ne_some]
  intro callable hforeign
  obtain ⟨attr, a, ha, hf, hmethod⟩ := Layout.exists_of_foreign? m.layout_eq hr hforeign
  rw [hd attr a callable (mem_of_fieldsOf m.fieldsOf_eq ha) hf] at hmethod
  cases hmethod

/-- A command with no type in the place of what makes its values makes them by itself. -/
theorem Command.makesOwn_of_lookup {c : Member}
    (h : ∀ u, c.shared.lookup makerName ≠ some (.type u)) : c.MakesOwn := by
  rw [MakesOwn, Option.eq_none_iff_forall_ne_some]
  intro u hu
  refine h u (CommandType.instead?_of_maker (t := .single c) ?_)
  generalize (CommandType.single c).maker = m at hu ⊢
  cases m <;> cases hu
  rfl

theorem CommandType.Making.makesOwn {serial : Nat} {d : Declaration} (m : Making serial d)
    (hd : d.body.lookup Command.makerName = none) : m.command.MakesOwn := by
  refine Command.makesOwn_of_lookup fun u hu => ?_
  cases (Declaration.lookup_shared_eq_none hd (by decide) .command).symm.trans hu

end CommandSpec
