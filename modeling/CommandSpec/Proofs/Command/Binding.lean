import CommandSpec.Proofs.Command.Failures
import Mathlib.Data.List.Perm.Subperm

/-!
# Proofs/Command/Binding — arguments and declarations, one to one

A usage **lines up** with declarations when its arguments have different attributes and these are
the declared ones.  A layout counts arguments and declarations and looks up each argument, so it is
found only for a usage that lines up (`Layout.exists_binding`), with one exception: two arguments
may have one attribute, and a declaration is then left over.  No command comes of this, since its
parameters would have one name (`CommandType.fails_of_not_linesUp`), but what is reported is not a
fault of the declaration.
-/

namespace CommandSpec

/-- The attributes that the arguments of a usage are stored under, in order. -/
def Usage.attributes (u : Usage) : List String := u.names.map attributeName

/-- **A usage lines up with declarations**: its arguments have different attributes, and these are
the declared ones. -/
def Usage.LinesUp (u : Usage) (declared : List (String × Argument)) : Prop :=
  u.attributes.Nodup ∧ ∀ attr, attr ∈ u.attributes ↔ attr ∈ declared.map (·.1)

/-- **A binding of a layout**: the arguments of its usage in order, each under its attribute, with
every declaration bound once.  The fields of the layout are made of them. -/
structure Layout.Binding (layout : Layout) (usage : Usage) (declared : List (String × Argument))
    (bound : List BoundArgument) : Prop where
  map_name : bound.map (·.name) = usage.names
  map_attr : bound.map (·.attr) = usage.attributes
  perm : (bound.map fun b => (b.attr, b.argument)).Perm declared
  attributes_eq : layout.attributes = usage.attributes
  plain : layout.required ++ layout.optional <+: bound.map (·.plain)

/-! ## Bound arguments -/

/-- A bound argument has the attribute of its name. -/
theorem BoundArgument.attr_eq {command name : String} {declared : List (String × Argument)}
    {isRest : Bool} {b : BoundArgument} (h : of? command declared isRest name = .ok b) :
    b.attr = attributeName b.name := by
  obtain ⟨a, -, -, rfl⟩ := of?_eq_ok_iff.1 h
  rfl

namespace Layout

variable {usage : Usage} {declared : List (String × Argument)} {delegates : Bool} {layout : Layout}

/-- The arguments of a layout, bound one after the other. -/
theorem exists_bound (h : of? usage declared delegates = .ok layout) :
    ∃ bound : List BoundArgument, bound.map (·.name) = usage.names ∧
      (∀ b ∈ bound, b.attr = attributeName b.name ∧ (b.attr, b.argument) ∈ declared) ∧
      layout.attributes = bound.map (·.attr) ∧
      layout.required ++ layout.optional <+: bound.map (·.plain) := by
  obtain ⟨-, required, optional, rest, restField, hrequired, hoptional, hrest, hfield, rfl⟩ :=
    of?_eq_ok_iff.1 h
  refine ⟨required ++ optional ++ rest.toList.map (·.1), ?_, fun b hb => ?_, ?_, ?_⟩
  · rw [List.map_append, List.map_append, List.map_map, BoundArgument.map_name hrequired,
      BoundArgument.map_name hoptional, Usage.names_eq]
    exact congrArg (usage.required ++ usage.optional ++ ·) (map_name_boundRest? hrest)
  · have hof : ∃ isRest name, BoundArgument.of? usage.canonical declared isRest name = .ok b := by
      simp only [List.mem_append] at hb
      rcases hb with (hb | hb) | hb
      · exact ⟨false, BoundArgument.exists_of_mem hrequired b hb⟩
      · exact ⟨false, BoundArgument.exists_of_mem hoptional b hb⟩
      · obtain ⟨⟨b, isRequired⟩, hr, rfl⟩ := List.mem_map.1 hb
        obtain rfl := Option.mem_toList.1 hr
        exact ⟨true, exists_of_boundRest? hrest⟩
    obtain ⟨isRest, name, hname⟩ := hof
    exact ⟨BoundArgument.attr_eq hname, (BoundArgument.of_of? hname).1⟩
  · have hattr := congrArg (List.map Prod.snd) (map_restField? hfield)
    simp only [List.map_map, Function.comp_def] at hattr
    simp only [attributes, List.map_append, List.map_map, Function.comp_def, hattr]
    rfl
  · exact ⟨(rest.toList.map (·.1)).map (·.plain), by simp only [List.map_append]⟩

theorem attributes_eq (h : of? usage declared delegates = .ok layout) :
    layout.attributes = usage.attributes := by
  obtain ⟨bound, hnames, hbound, hattributes, -⟩ := exists_bound h
  rw [hattributes, Usage.attributes, ← hnames, List.map_map]
  exact List.map_congr_left fun b hb => (hbound b hb).1

/-- **A layout whose arguments have different attributes binds every declaration once.** -/
theorem exists_binding (h : of? usage declared delegates = .ok layout)
    (hnodup : usage.attributes.Nodup) : ∃ bound, layout.Binding usage declared bound := by
  obtain ⟨bound, hnames, hbound, hattributes, hplain⟩ := exists_bound h
  have hattr : bound.map (·.attr) = usage.attributes := hattributes.symm.trans (attributes_eq h)
  have hpairs : (bound.map fun b => (b.attr, b.argument)).Nodup := by
    refine .of_map Prod.fst ?_
    rw [List.map_map]
    exact hattr ▸ hnodup
  have hsub : (bound.map fun b => (b.attr, b.argument)) ⊆ declared :=
    List.forall_mem_map.2 fun b hb => (hbound b hb).2
  have hlength : declared.length ≤ (bound.map fun b => (b.attr, b.argument)).length := by
    have harity : bound.length = usage.arity := by
      rw [← List.length_map (·.name), hnames, Usage.names, List.length_map, usage.length_arguments]
    rw [List.length_map, harity, (of?_eq_ok_iff.1 h).1]
  exact ⟨bound, hnames, hattr, (hpairs.subperm hsub).perm_of_length_le hlength,
    attributes_eq h, hplain⟩

theorem Binding.linesUp {bound : List BoundArgument} (h : layout.Binding usage declared bound)
    (hnodup : usage.attributes.Nodup) : usage.LinesUp declared := by
  have hperm : usage.attributes.Perm (declared.map (·.1)) := by
    have hperm := h.perm.map Prod.fst
    rw [List.map_map] at hperm
    exact h.map_attr ▸ hperm
  exact ⟨hnodup, fun attr => hperm.mem_iff⟩

/-- A layout of a usage that does not line up has arguments of one attribute. -/
theorem not_nodup_of_not_linesUp (h : of? usage declared delegates = .ok layout)
    (hmisfit : ¬usage.LinesUp declared) : ¬usage.attributes.Nodup := fun hnodup => by
  obtain ⟨bound, hbound⟩ := exists_binding h hnodup
  exact hmisfit (hbound.linesUp hnodup)

/-- The arguments of a layout are declared, and there are as many of both. -/
theorem attributes_subset (h : of? usage declared delegates = .ok layout) :
    usage.attributes ⊆ declared.map (·.1) ∧ usage.arity = declared.length := by
  obtain ⟨bound, hnames, hbound, -, -⟩ := exists_bound h
  refine ⟨fun attr hattr => ?_, (of?_eq_ok_iff.1 h).1⟩
  rw [Usage.attributes, ← hnames, List.map_map] at hattr
  obtain ⟨b, hb, rfl⟩ := List.mem_map.1 hattr
  exact List.mem_map.2 ⟨_, (hbound b hb).2, (hbound b hb).1⟩

end Layout

/-! ## Types -/

namespace CommandType

/-- What is reported of names that cannot be those of parameters. -/
theorem kind_of_checkNames {names : List String} {e : Misuse}
    (h : Parameter.checkNames names = .error e) :
    e.kind = "ValueError" ∨ e.kind = "IndexError" := by
  unfold Parameter.checkNames at h
  generalize firstRepeat? names = found at h
  induction names with
  | nil =>
    cases found with
    | none => cases h
    | some name =>
      cases h
      exact .inl rfl
  | cons name names ih =>
    rw [List.forIn_cons] at h
    by_cases hempty : name = ""
    · rw [if_pos hempty] at h
      cases h
      exact .inr rfl
    · rw [if_neg hempty] at h
      cases hname : Text.isParameterName name with
      | false =>
        rw [hname] at h
        cases h
        exact .inl rfl
      | true =>
        rw [hname] at h
        exact ih h

/-- **A command whose usage does not line up with its declarations is not declared.** -/
theorem fails_of_not_linesUp {serial : Nat} {d : Declaration} {declared : List (String × Argument)}
    {doc : Option String} {docs : CommandDocs} {log log' : List Event}
    (hdeclared : fieldsOf d.name.short d.body = .ok declared) (hdoc : d.docs? "strip" = .ok doc)
    (hdocs : Docs.read doc log = .ok docs log') (h : ¬docs.usage.LinesUp declared) :
    ∃ e, declareCommand serial d log = .error e log' ∧
      (e.kind = "InvalidStructureError" ∨
        ¬docs.usage.attributes.Nodup ∧ (e.kind = "ValueError" ∨ e.kind = "IndexError")) := by
  rw [declareCommand, bind_of_ok (Logged.check_eq_ok_iff.2 ⟨hdeclared, rfl⟩),
    bind_of_ok (Logged.check_eq_ok_iff.2 ⟨hdoc, rfl⟩), bind_of_ok hdocs]
  cases hlayout : Layout.of? docs.usage declared d.delegates with
  | error e => exact ⟨e.fault, rfl, .inl rfl⟩
  | ok layout =>
    have hnodup := Layout.not_nodup_of_not_linesUp hlayout h
    cases hcheck : Parameter.checkNames layout.attributes with
    | error e =>
      have hfails : (Logged.check Misuse.fault (Parameter.checkNames layout.attributes)) log' =
          .error e.fault log' := by
        rw [hcheck]
        rfl
      refine ⟨e.fault, ?_, .inr ⟨hnodup, kind_of_checkNames hcheck⟩⟩
      rw [bind_of_ok (Logged.check_eq_ok_iff.2 ⟨rfl, rfl⟩), bind_of_error hfails]
    | ok _ => exact absurd (Layout.attributes_eq hlayout ▸ nodup_of_checkNames hcheck) hnodup

end CommandType

/-! ## The law of bindings -/

/-- **Arguments and declarations are bound one to one**, whenever the arguments of a usage have
different attributes.  A usage that does not line up with its declarations is refused, unless two of
its arguments have one attribute, all attributes are declared, and there are as many declarations as
arguments.  No type is declared of any usage that does not line up: what is reported is a fault of
the structure, or in this one case a misuse. -/
theorem Layout.of?_binds (usage : Usage) (declared : List (String × Argument)) (delegates : Bool) :
    (∀ layout, of? usage declared delegates = .ok layout → usage.attributes.Nodup →
      usage.LinesUp declared ∧ ∃ bound, layout.Binding usage declared bound) ∧
    (¬usage.LinesUp declared →
      (∃ e, of? usage declared delegates = .error e ∧ e.fault.kind = "InvalidStructureError") ∨
        ¬usage.attributes.Nodup ∧ usage.attributes ⊆ declared.map (·.1) ∧
          usage.arity = declared.length) ∧
    ∀ serial d doc docs log log', fieldsOf d.name.short d.body = .ok declared →
      d.docs? "strip" = .ok doc → Docs.read doc log = .ok docs log' → docs.usage = usage →
      ¬usage.LinesUp declared → ∃ e, CommandType.declareCommand serial d log = .error e log' ∧
        (e.kind = "InvalidStructureError" ∨
          ¬usage.attributes.Nodup ∧ (e.kind = "ValueError" ∨ e.kind = "IndexError")) := by
  refine ⟨fun layout h hnodup => ?_, fun h => ?_, ?_⟩
  · obtain ⟨bound, hbound⟩ := exists_binding h hnodup
    exact ⟨hbound.linesUp hnodup, bound, hbound⟩
  · cases hlayout : of? usage declared delegates with
    | error e => exact .inl ⟨e, rfl, rfl⟩
    | ok layout => exact .inr ⟨not_nodup_of_not_linesUp hlayout h, attributes_subset hlayout⟩
  · rintro serial d doc docs log log' hdeclared hdoc hdocs rfl h
    exact CommandType.fails_of_not_linesUp hdeclared hdoc hdocs h

namespace Sample

/-- A usage of two arguments. -/
def pair : Usage := ⟨["pair"], ["a", "b"], [], none, "Pair."⟩

/-- A usage of two arguments that have one attribute. -/
def twins : Usage := ⟨["pair"], ["a", "--a"], [], none, "Pair."⟩

/-- The declarations of two fields. -/
def pairFields : List (String × Argument) :=
  [("a", ⟨.function .text, false⟩), ("b", ⟨.function .text, false⟩)]

/-- The arguments of a usage are bound. -/
theorem of?_binds_pair : ∃ layout, Layout.of? pair pairFields false = .ok layout ∧
    pair.attributes.Nodup ∧ pair.LinesUp pairFields ∧
      ∃ bound, layout.Binding pair pairFields bound :=
  have hnodup : pair.attributes.Nodup := by decide +kernel
  ⟨_, rfl, hnodup, (Layout.of?_binds pair pairFields false).1 _ rfl hnodup⟩

/-- The declaration of a command whose arguments have one attribute. -/
def twinsDeclaration : Declaration :=
  Tinygit.declaration .command "Pair" (some "`pair <a> <--a>` Pair.\n\nArguments:\na: A.\n--a: B.")
    (pairFields.map fun f => (f.1, .field f.2)) false

/-- **Two arguments may take one declaration**: the other is left over, nothing is reported of the
structure, and the command fails for its parameters. -/
theorem of?_twins : Usage.ofLine? "pair <a> <--a>" "Pair." = .ok twins ∧
    ¬twins.LinesUp pairFields ∧
    (∃ layout, Layout.of? twins pairFields false = .ok layout ∧ layout.attributes = ["a", "a"]) ∧
    ((CommandType.declare 0 twinsDeclaration).result.1.map fun _ => ()).mapError (·.kind) =
      .error "ValueError" := by
  have hnodup : ¬twins.attributes.Nodup := by decide +kernel
  exact ⟨by decide +kernel, fun h => hnodup h.1, ⟨_, rfl, by decide +kernel⟩, by decide +kernel⟩

end Sample

end CommandSpec
