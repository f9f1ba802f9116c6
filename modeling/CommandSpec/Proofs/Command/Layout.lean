import CommandSpec.Command.Layout
import CommandSpec.Proofs.Step

/-!
# Proofs/Command/Layout — what a layout is made of

A layout that is found binds each argument of the usage to a declaration of the body
(`Layout.of?_eq_ok_iff`).  So the type that a rest field hands its tokens to is the type of a field
that is declared for it (`Layout.declared_of_target?`).
-/

namespace CommandSpec

/-! ## Declared fields -/

/-- What is found under a name stands under it. -/
theorem mem_of_lookup {β : Type} {entries : List (String × β)} {name : String} {entry : β}
    (h : entries.lookup name = some entry) : (name, entry) ∈ entries := by
  obtain ⟨before, after, rfl, -⟩ := List.lookup_eq_some_iff.1 h
  exact List.mem_append_right before (List.mem_cons_self ..)

/-- The declared fields of a body stand in it. -/
theorem mem_of_fieldsOf {type attr : String} {a : Argument} :
    ∀ {body : List (String × BodyEntry)} {declared : List (String × Argument)},
      fieldsOf type body = .ok declared → (attr, a) ∈ declared → (attr, BodyEntry.field a) ∈ body
  | [], _, h, ha => by
    rw [fieldsOf, Except.ok.injEq] at h
    subst h
    cases ha
  | (attr', .field b) :: more, declared, h, ha => by
    rw [fieldsOf] at h
    split at h
    · cases h
    obtain ⟨found, hmore, rfl⟩ := except_map_eq_ok_iff.1 h
    rcases List.mem_cons.1 ha with hfirst | ha
    · cases hfirst
      exact List.mem_cons_self ..
    · exact List.mem_cons_of_mem _ (mem_of_fieldsOf hmore ha)
  | (_, .member _) :: more, declared, h, ha => List.mem_cons_of_mem _ (mem_of_fieldsOf h ha)
  | (_, .constant _) :: more, declared, h, ha => List.mem_cons_of_mem _ (mem_of_fieldsOf h ha)

/-- **An argument is bound** to the declaration that stands under its attribute, and to a path only
as a rest argument. -/
theorem BoundArgument.of?_eq_ok_iff {command name : String} {declared : List (String × Argument)}
    {isRest : Bool} {b : BoundArgument} :
    of? command declared isRest name = .ok b ↔
      ∃ a, declared.lookup (attributeName name) = some a ∧ (a.isPath = true → isRest = true) ∧
        ⟨name, attributeName name, a⟩ = b := by
  rw [of?]
  cases declared.lookup (attributeName name) with
  | none =>
    constructor
    · intro h
      cases h
    · rintro ⟨_, h, -⟩
      cases h
  | some a =>
    dsimp only
    split
    · next hpath =>
      constructor
      · intro h
        cases h
      · rintro ⟨_, ⟨⟩, hrest, -⟩
        cases isRest with
        | true => simp at hpath
        | false => exact absurd (hrest (Bool.and_eq_true_iff.1 hpath).1) Bool.false_ne_true
    · next hpath =>
      constructor
      · rintro ⟨⟩
        exact ⟨a, rfl, by simpa using hpath, rfl⟩
      · rintro ⟨_, ⟨⟩, -, rfl⟩
        rfl

/-- **A bound argument is declared** under its attribute, and a path only as a rest argument. -/
theorem BoundArgument.of_of? {command name : String} {declared : List (String × Argument)}
    {isRest : Bool} {b : BoundArgument} (h : of? command declared isRest name = .ok b) :
    (b.attr, b.argument) ∈ declared ∧ (b.argument.isPath = true → isRest = true) := by
  obtain ⟨a, ha, hpath, rfl⟩ := of?_eq_ok_iff.1 h
  exact ⟨mem_of_lookup ha, hpath⟩

/-- A bound argument keeps its name. -/
theorem BoundArgument.name_of_of? {command name : String} {declared : List (String × Argument)}
    {isRest : Bool} {b : BoundArgument} (h : of? command declared isRest name = .ok b) :
    b.name = name := by
  obtain ⟨a, -, -, rfl⟩ := of?_eq_ok_iff.1 h
  rfl

/-- Bound arguments keep their names, in order. -/
theorem BoundArgument.map_name {command : String} {declared : List (String × Argument)}
    {isRest : Bool} : ∀ {names : List String} {bound : List BoundArgument},
      names.mapM (of? command declared isRest) = .ok bound → bound.map (·.name) = names := by
  intro names
  induction names with
  | nil =>
    rintro bound ⟨⟩
    rfl
  | cons name names ih =>
    intro bound h
    rw [List.mapM_cons] at h
    simp only [except_bind_eq_ok_iff] at h
    obtain ⟨first, hfirst, more, hmore, h⟩ := h
    cases h
    rw [List.map_cons, name_of_of? hfirst, ih hmore]

/-- **Arguments that are bound** are each bound by themselves. -/
theorem BoundArgument.exists_of_mem {command : String} {declared : List (String × Argument)}
    {isRest : Bool} : ∀ {names : List String} {bound : List BoundArgument},
      names.mapM (of? command declared isRest) = .ok bound → ∀ b ∈ bound,
      ∃ name, of? command declared isRest name = .ok b := by
  intro names
  induction names with
  | nil =>
    intro bound h b hb
    cases h
    cases hb
  | cons name names ih =>
    intro bound h b hb
    rw [List.mapM_cons] at h
    simp only [except_bind_eq_ok_iff] at h
    obtain ⟨first, hfirst, more, hmore, h⟩ := h
    cases h
    rcases List.mem_cons.1 hb with rfl | hb
    · exact ⟨name, hfirst⟩
    · exact ih hmore b hb

/-- Bound arguments that take one token are declared, and are no paths. -/
theorem BoundArgument.of_mem {command : String} {declared : List (String × Argument)}
    {names : List String} {bound : List BoundArgument}
    (h : names.mapM (of? command declared false) = .ok bound) (b : BoundArgument) (hb : b ∈ bound) :
    (b.attr, b.argument) ∈ declared ∧ b.argument.isPath = false := by
  obtain ⟨name, hname⟩ := exists_of_mem h b hb
  obtain ⟨hmem, hpath⟩ := of_of? hname
  exact ⟨hmem, by simpa using hpath⟩

namespace Layout

/-! ## The parts of a layout -/

/-- The rest argument of a usage, bound to its declaration. -/
def boundRest? (command : String) (declared : List (String × Argument)) :
    Option RestArgument → Except StructureFault (Option (BoundArgument × Bool))
  | none => .ok none
  | some r => (BoundArgument.of? command declared true r.name).map fun b => some (b, r.required)

/-- The rest field of a layout. -/
def restField? (command : String) (delegates : Bool) (plain : List BoundArgument)
    (rest : Option (BoundArgument × Bool)) :
    Except StructureFault (Option (RestField CommandType)) :=
  if delegates then (delegatingRest command plain rest).map some
  else match rest with
    | none => .ok none
    | some (b, isRequired) => (ordinaryRest command b isRequired).map some

/-- A layout is made of its parts, one after the other. -/
theorem of?_eq (usage : Usage) (declared : List (String × Argument)) (delegates : Bool) :
    of? usage declared delegates = (do
      if usage.arity = declared.length then
        let required ← usage.required.mapM (BoundArgument.of? usage.canonical declared false)
        let optional ← usage.optional.mapM (BoundArgument.of? usage.canonical declared false)
        let rest ← boundRest? usage.canonical declared usage.rest
        let restField ← restField? usage.canonical delegates (required ++ optional) rest
        return ⟨required.map (·.plain), optional.map (·.plain), restField⟩
      else throw (.fieldCount usage.canonical declared.length usage.arity)) := by
  rw [of?]
  by_cases harity : usage.arity = declared.length
  · rw [if_pos harity]
    dsimp only
    rw [if_neg (not_not_intro harity)]
    refine bind_congr fun required => bind_congr fun optional => ?_
    cases usage.rest with
    | none => cases delegates <;> rfl
    | some r =>
      rw [boundRest?]
      dsimp only
      cases BoundArgument.of? usage.canonical declared true r.name with
      | error e => rfl
      | ok b => cases delegates <;> rfl
  · rw [if_neg harity]
    dsimp only
    rw [if_pos harity]
    rfl

/-- **A layout is found** when there are as many declarations as arguments, each argument finds its
own, and the rest field fits. -/
theorem of?_eq_ok_iff {usage : Usage} {declared : List (String × Argument)} {delegates : Bool}
    {layout : Layout} :
    of? usage declared delegates = .ok layout ↔
      usage.arity = declared.length ∧ ∃ required optional rest restField,
        usage.required.mapM (BoundArgument.of? usage.canonical declared false) = .ok required ∧
        usage.optional.mapM (BoundArgument.of? usage.canonical declared false) = .ok optional ∧
        boundRest? usage.canonical declared usage.rest = .ok rest ∧
        restField? usage.canonical delegates (required ++ optional) rest = .ok restField ∧
        ⟨required.map (·.plain), optional.map (·.plain), restField⟩ = layout := by
  rw [of?_eq]
  by_cases harity : usage.arity = declared.length
  · rw [if_pos harity]
    simp only [except_bind_eq_ok_iff, harity, true_and, pure, Except.pure, Except.ok.injEq]
    constructor
    · rintro ⟨required, hr, optional, ho, rest, hrest, restField, hfield, h⟩
      exact ⟨required, optional, rest, restField, hr, ho, hrest, hfield, h⟩
    · rintro ⟨required, optional, rest, restField, hr, ho, hrest, hfield, h⟩
      exact ⟨required, hr, optional, ho, rest, hrest, restField, hfield, h⟩
  · rw [if_neg harity]
    constructor
    · intro h
      cases h
    · intro h
      exact absurd h.1 harity

/-! ## The rest field -/

end Layout

namespace Conversion

variable {conversion : Conversion} {isPath : Bool} {kind : RestKind CommandType}

/-- **What is read by its conversion as a whole** is read by a type, or by something else that has
the method. -/
theorem nested?_eq_some_iff : conversion.nested? isPath = some kind ↔
    (∃ u, conversion = .type u ∧ kind = if isPath then .path u else .subcommand u) ∨
      ∃ f, conversion = .function f ∧ (f.reader? (nestedMethod isPath)).isSome = true ∧
        kind = .foreign isPath f := by
  cases conversion with
  | type u => simp [nested?, @eq_comm _ kind]
  | function f => simp [nested?, @eq_comm _ kind]

/-- **Nothing else is read as a whole.** -/
theorem nested?_eq_none_iff : conversion.nested? isPath = none ↔
    ∃ f, conversion = .function f ∧ f.reader? (nestedMethod isPath) = none := by
  cases conversion with
  | type u => simp [nested?]
  | function f => simp [nested?]

theorem ne_tokens_of_nested? (h : conversion.nested? isPath = some kind) {f : Converter} :
    kind ≠ .tokens f := by
  obtain ⟨u, -, rfl⟩ | ⟨_, -, -, rfl⟩ := nested?_eq_some_iff.1 h
  · cases isPath <;> exact nofun
  · exact nofun

theorem eq_type_of_nested? (h : conversion.nested? isPath = some kind) {u : CommandType}
    (hu : kind.target? = some u) : conversion = .type u := by
  obtain ⟨w, rfl, rfl⟩ | ⟨_, -, -, rfl⟩ := nested?_eq_some_iff.1 h
  · cases isPath <;> exact congrArg _ (Option.some.inj hu)
  · cases hu

end Conversion

namespace Layout

/-- A command that delegates has no field but the one that holds the subcommand. -/
theorem of_delegatingRest {command : String} {plain : List BoundArgument}
    {rest : Option (BoundArgument × Bool)} {r : RestField CommandType}
    (h : delegatingRest command plain rest = .ok r) :
    ∃ b isRequired, rest = some (b, isRequired) ∧ plain = [] ∧
      b.argument.conversion.nested? false = some r.kind := by
  unfold delegatingRest at h
  split at h
  · next b isRequired =>
    split at h
    · cases h
    · split at h
      · next kind hkind =>
        cases h
        exact ⟨b, isRequired, rfl, rfl, hkind⟩
      · cases h
  · cases h

/-- The rest of any other command is a path, or takes plain tokens. -/
theorem of_ordinaryRest {command : String} {b : BoundArgument} {isRequired : Bool}
    {r : RestField CommandType} (h : ordinaryRest command b isRequired = .ok r) :
    (b.argument.isPath = true ∧ b.argument.conversion.nested? true = some r.kind) ∨
      b.argument.isPath = false ∧ r.kind = .tokens b.argument.conversion.converter := by
  rw [ordinaryRest] at h
  split at h
  · next hpath =>
    split at h
    · next kind hkind =>
      cases h
      exact .inl ⟨hpath, hkind⟩
    · cases h
  · next hpath =>
    cases h
    exact .inr ⟨Bool.eq_false_iff.2 hpath, rfl⟩

/-- **What the rest field does with its tokens** is said by its declaration: in a command that
delegates, where no other field stands, it is read as a command; in any other it is read as a path,
or takes plain tokens. -/
theorem kind_of_restField? {command : String} {delegates : Bool} {plain : List BoundArgument}
    {rest : Option (BoundArgument × Bool)} {r : RestField CommandType}
    (h : restField? command delegates plain rest = .ok (some r)) :
    ∃ b isRequired, rest = some (b, isRequired) ∧
      ((delegates = true ∧ plain = [] ∧ b.argument.conversion.nested? false = some r.kind) ∨
        (delegates = false ∧ b.argument.isPath = true ∧
          b.argument.conversion.nested? true = some r.kind) ∨
        (delegates = false ∧ b.argument.isPath = false ∧
          r.kind = .tokens b.argument.conversion.converter)) := by
  unfold restField? at h
  cases delegates with
  | true =>
    rw [if_pos rfl] at h
    obtain ⟨r', hr', hs⟩ := except_map_eq_ok_iff.1 h
    obtain rfl := Option.some.inj hs
    obtain ⟨b, isRequired, hrest, hkind⟩ := of_delegatingRest hr'
    exact ⟨b, isRequired, hrest, .inl ⟨rfl, hkind⟩⟩
  | false =>
    rw [if_neg Bool.false_ne_true] at h
    split at h
    · cases h
    · next b isRequired =>
      obtain ⟨r', hr', hs⟩ := except_map_eq_ok_iff.1 h
      obtain rfl := Option.some.inj hs
      refine ⟨b, isRequired, rfl, .inr ?_⟩
      exact (of_ordinaryRest hr').imp (fun h => ⟨rfl, h⟩) fun h => ⟨rfl, h⟩

/-- The rest argument is bound as any other is. -/
theorem exists_of_boundRest? {command : String} {declared : List (String × Argument)}
    {rest : Option RestArgument} {b : BoundArgument} {isRequired : Bool}
    (h : boundRest? command declared rest = .ok (some (b, isRequired))) :
    ∃ name, BoundArgument.of? command declared true name = .ok b := by
  cases rest with
  | none => cases h
  | some r =>
    rw [boundRest?] at h
    obtain ⟨b', hb', hs⟩ := except_map_eq_ok_iff.1 h
    cases hs
    exact ⟨r.name, hb'⟩

/-- The rest argument that is bound is declared. -/
theorem mem_of_boundRest? {command : String} {declared : List (String × Argument)}
    {rest : Option RestArgument} {b : BoundArgument} {isRequired : Bool}
    (h : boundRest? command declared rest = .ok (some (b, isRequired))) :
    (b.attr, b.argument) ∈ declared := by
  obtain ⟨_, hb⟩ := exists_of_boundRest? h
  exact (BoundArgument.of_of? hb).1

/-- The rest argument of a usage is bound to its name. -/
theorem map_name_boundRest? {command : String} {declared : List (String × Argument)}
    {usageRest : Option RestArgument} {rest : Option (BoundArgument × Bool)}
    (h : boundRest? command declared usageRest = .ok rest) :
    rest.toList.map (·.1.name) = usageRest.toList.map (·.name) := by
  cases usageRest with
  | none =>
    cases h
    rfl
  | some r =>
    rw [boundRest?] at h
    obtain ⟨b, hb, rfl⟩ := except_map_eq_ok_iff.1 h
    rw [Option.toList_some, Option.toList_some, List.map_singleton, List.map_singleton,
      BoundArgument.name_of_of? hb]

/-- The rest field has the name and the attribute of the argument that it is made of. -/
theorem map_restField? {command : String} {delegates : Bool} {plain : List BoundArgument}
    {rest : Option (BoundArgument × Bool)} {restField : Option (RestField CommandType)}
    (h : restField? command delegates plain rest = .ok restField) :
    restField.toList.map (fun r => (r.name, r.attr)) =
      rest.toList.map fun b => (b.1.name, b.1.attr) := by
  unfold restField? at h
  split at h
  · obtain ⟨r, hr, rfl⟩ := except_map_eq_ok_iff.1 h
    unfold delegatingRest at hr
    split at hr
    · split at hr
      · cases hr
      · split at hr <;> cases hr
        rfl
    · cases hr
  · split at h
    · cases h
      rfl
    · obtain ⟨r, hr, rfl⟩ := except_map_eq_ok_iff.1 h
      unfold ordinaryRest at hr
      split at hr
      · split at hr <;> cases hr
        rfl
      · cases hr
        rfl

theorem map_name_restField? {command : String} {delegates : Bool} {plain : List BoundArgument}
    {rest : Option (BoundArgument × Bool)} {restField : Option (RestField CommandType)}
    (h : restField? command delegates plain rest = .ok restField) :
    restField.toList.map (·.name) = rest.toList.map (·.1.name) := by
  simpa only [List.map_map, Function.comp_def] using congrArg (List.map Prod.fst) (map_restField? h)

/-- **A nested rest field is accepted** if its conversion can read it: as a command where its
command delegates, and otherwise as the path that it is declared for. -/
theorem declared_of_rest {usage : Usage} {declared : List (String × Argument)}
    {delegates : Bool} {layout : Layout} (h : of? usage declared delegates = .ok layout)
    {r : RestField CommandType} (hr : layout.rest = some r) (htokens : ∀ f, r.kind ≠ .tokens f) :
    ∃ a, declared.lookup (attributeName r.name) = some a ∧
      a.conversion.nested? (!delegates) = some r.kind ∧ (delegates = true ∨ a.isPath = true) := by
  obtain ⟨-, required, optional, rest, restField, -, -, hrest, hfield, rfl⟩ := of?_eq_ok_iff.1 h
  obtain rfl : restField = some r := hr
  obtain ⟨b, isRequired, rfl, hkind⟩ := kind_of_restField? hfield
  have hname : r.name = b.name := by
    simpa using congrArg List.head? (map_name_restField? hfield)
  obtain ⟨name, hb⟩ := exists_of_boundRest? hrest
  obtain ⟨a, ha, -, rfl⟩ := BoundArgument.of?_eq_ok_iff.1 hb
  obtain ⟨rfl, -, hkind⟩ | ⟨rfl, hpath, hkind⟩ | ⟨-, -, hkind⟩ := hkind
  · exact ⟨a, hname ▸ ha, hkind, .inl rfl⟩
  · exact ⟨a, hname ▸ ha, hkind, .inr hpath⟩
  · exact absurd hkind (htokens _)

/-- What the rest field delegates to is the type of a declared field. -/
theorem exists_of_target? {usage : Usage} {declared : List (String × Argument)} {delegates : Bool}
    {layout : Layout} {r : RestField CommandType} {u : CommandType}
    (h : of? usage declared delegates = .ok layout) (hr : layout.rest = some r)
    (hu : r.kind.target? = some u) :
    ∃ attr a, (attr, a) ∈ declared ∧ a.conversion = .type u := by
  obtain ⟨a, ha, hkind, -⟩ := declared_of_rest h hr fun f hf => by
    rw [hf] at hu
    cases hu
  exact ⟨attributeName r.name, a, mem_of_lookup ha, Conversion.eq_type_of_nested? hkind hu⟩

/-- What the rest field is read by, if it is no type, is the function of a declared field. -/
theorem exists_of_foreign? {usage : Usage} {declared : List (String × Argument)} {delegates : Bool}
    {layout : Layout} {r : RestField CommandType} {callable : Converter}
    (h : of? usage declared delegates = .ok layout) (hr : layout.rest = some r)
    (hforeign : r.kind.foreign? = some callable) :
    ∃ attr a, (attr, a) ∈ declared ∧ a.conversion = .function callable ∧
      (callable.reader? (nestedMethod !delegates)).isSome = true := by
  obtain ⟨a, ha, hkind, -⟩ := declared_of_rest h hr fun f hf => by
    rw [hf] at hforeign
    cases hforeign
  obtain ⟨u, -, hu⟩ | ⟨f, hf, hmethod, hfunction⟩ := Conversion.nested?_eq_some_iff.1 hkind
  · rw [hu] at hforeign
    generalize (!delegates) = isPath at hforeign
    cases isPath <;> cases hforeign
  · rw [hfunction] at hforeign
    obtain rfl : f = callable := Option.some.inj hforeign
    exact ⟨attributeName r.name, a, mem_of_lookup ha, hf, hmethod⟩

/-- **The fields of a layout are named as the arguments of its usage**, in the same order. -/
theorem names_eq {usage : Usage} {declared : List (String × Argument)} {delegates : Bool}
    {layout : Layout} (h : of? usage declared delegates = .ok layout) :
    layout.required.map (·.name) ++ layout.optional.map (·.name) ++ layout.rest.toList.map (·.name)
      = usage.names := by
  obtain ⟨-, required, optional, rest, restField, hrequired, hoptional, hrest, hfield, rfl⟩ :=
    of?_eq_ok_iff.1 h
  have hplain : ∀ bs : List BoundArgument, (bs.map (·.plain)).map (·.name) = bs.map (·.name) :=
    fun bs => List.map_map
  rw [hplain, hplain, BoundArgument.map_name hrequired, BoundArgument.map_name hoptional,
    map_name_restField? hfield, map_name_boundRest? hrest, Usage.names_eq]

/-- **A layout has a subcommand** exactly when its command delegates, be it of a type or of
something else. -/
theorem delegates_iff {usage : Usage} {declared : List (String × Argument)} {delegates : Bool}
    {layout : Layout} (h : of? usage declared delegates = .ok layout) :
    delegates = true ↔ ∃ r ∈ layout.rest,
      (∃ u, r.kind = .subcommand u) ∨ ∃ callable, r.kind = .foreign false callable := by
  obtain ⟨-, required, optional, rest, restField, -, -, -, hfield, rfl⟩ := of?_eq_ok_iff.1 h
  constructor
  · rintro rfl
    obtain ⟨r, hr, rfl⟩ : ∃ r, delegatingRest usage.canonical (required ++ optional) rest = .ok r ∧
        some r = restField := except_map_eq_ok_iff.1 hfield
    obtain ⟨_, _, -, -, hkind⟩ := of_delegatingRest hr
    obtain ⟨u, -, hu⟩ | ⟨callable, -, -, hforeign⟩ := Conversion.nested?_eq_some_iff.1 hkind
    · exact ⟨r, rfl, .inl ⟨u, hu⟩⟩
    · exact ⟨r, rfl, .inr ⟨callable, hforeign⟩⟩
  · rintro ⟨r, hr, hkind⟩
    obtain rfl : restField = some r := hr
    obtain ⟨b, _, -, ⟨hdelegates, -⟩ | ⟨-, -, hpath⟩ | ⟨-, -, htokens⟩⟩ :=
      kind_of_restField? hfield
    · exact hdelegates
    · obtain ⟨_, -, hpath⟩ | ⟨_, -, -, hpath⟩ := Conversion.nested?_eq_some_iff.1 hpath
      · rw [hpath] at hkind
        obtain ⟨_, ⟨⟩⟩ | ⟨_, ⟨⟩⟩ := hkind
      · rw [hpath] at hkind
        obtain ⟨_, ⟨⟩⟩ | ⟨_, ⟨⟩⟩ := hkind
    · rw [htokens] at hkind
      obtain ⟨_, ⟨⟩⟩ | ⟨_, ⟨⟩⟩ := hkind

/-- **A command whose rest field is a subcommand has no other fields.** -/
theorem plain_eq_nil_of_delegates {usage : Usage} {declared : List (String × Argument)}
    {delegates : Bool} {layout : Layout} {r : RestField CommandType}
    (h : of? usage declared delegates = .ok layout) (hr : layout.rest = some r)
    (hkind : (∃ u, r.kind = .subcommand u) ∨ ∃ callable, r.kind = .foreign false callable) :
    layout.required = [] ∧ layout.optional = [] := by
  obtain rfl := (delegates_iff h).2 ⟨r, hr, hkind⟩
  obtain ⟨-, required, optional, rest, restField, -, -, -, hfield, rfl⟩ := of?_eq_ok_iff.1 h
  obtain rfl : restField = some r := hr
  obtain ⟨-, -, -, ⟨-, hnil, -⟩ | ⟨h, -⟩ | ⟨h, -⟩⟩ := kind_of_restField? hfield
  · obtain ⟨rfl, rfl⟩ := List.append_eq_nil_iff.1 hnil
    exact ⟨rfl, rfl⟩
  · cases h
  · cases h

/-- A plain field stands in a command that does not delegate, and keeps its tokens as they are if
its declaration does. -/
theorem converter_of_plain {command : String} {delegates : Bool} {plain : List BoundArgument}
    {rest : Option (BoundArgument × Bool)} {restField : Option (RestField CommandType)}
    (hfield : restField? command delegates plain rest = .ok restField) {b : BoundArgument}
    (hb : b ∈ plain) (hd : delegates = false → b.argument.conversion = .function .text) :
    b.plain.converter = .text := by
  cases delegates with
  | true =>
    obtain ⟨r, -, rfl⟩ : ∃ r, delegatingRest command plain rest = .ok r ∧ some r = restField :=
      except_map_eq_ok_iff.1 hfield
    obtain ⟨-, -, -, ⟨-, hnil, -⟩ | ⟨h, -⟩ | ⟨h, -⟩⟩ := kind_of_restField? hfield
    · rw [hnil] at hb
      cases hb
    · cases h
    · cases h
  | false =>
    rw [BoundArgument.plain, hd rfl]
    rfl

/-- **The fields keep their tokens as they are**, if those of the declaration do. -/
theorem takesTexts {usage : Usage} {declared : List (String × Argument)} {delegates : Bool}
    {layout : Layout} (h : of? usage declared delegates = .ok layout)
    (hd : delegates = false → ∀ attr a, (attr, a) ∈ declared → a.isPath = false →
      a.conversion = .function .text) :
    (∀ f ∈ layout.required ++ layout.optional, f.converter = .text) ∧
      ∀ r ∈ layout.rest, ∀ converter, r.kind = .tokens converter → converter = .text := by
  obtain ⟨-, required, optional, rest, restField, hrequired, hoptional, hrest, hfield, rfl⟩ :=
    of?_eq_ok_iff.1 h
  have hplain : ∀ b ∈ required ++ optional, (b.attr, b.argument) ∈ declared ∧
      b.argument.isPath = false := by
    intro b hb
    rcases List.mem_append.1 hb with hb | hb
    · exact BoundArgument.of_mem hrequired b hb
    · exact BoundArgument.of_mem hoptional b hb
  constructor
  · intro f hf
    rw [← List.map_append] at hf
    obtain ⟨b, hb, rfl⟩ := List.mem_map.1 hf
    obtain ⟨hmem, hpath⟩ := hplain b hb
    exact converter_of_plain hfield hb fun hdelegates => hd hdelegates _ _ hmem hpath
  · intro r hr converter hk
    obtain rfl : restField = some r := hr
    obtain ⟨b, isRequired, rfl, hkind⟩ := kind_of_restField? hfield
    obtain ⟨-, -, hk'⟩ | ⟨-, -, hk'⟩ | ⟨hdelegates, hpath, hk'⟩ := hkind
    · exact absurd hk (Conversion.ne_tokens_of_nested? hk')
    · exact absurd hk (Conversion.ne_tokens_of_nested? hk')
    · rw [hk'] at hk
      obtain rfl := RestKind.tokens.inj hk
      rw [hd hdelegates _ _ (mem_of_boundRest? hrest) hpath]
      rfl

end Layout

end CommandSpec
