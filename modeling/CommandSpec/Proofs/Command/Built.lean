import CommandSpec.Command.Declared
import CommandSpec.Proofs.Command.Layout
import CommandSpec.Proofs.Docs.Read
import CommandSpec.Proofs.Trie.Tree
import CommandSpec.Proofs.Usage.Grammar

/-!
# Proofs/Command/Built — what holds of every declared type

A type is **built** when it is declared, and so is every type that its declaration refers to; the
roots are built from the start.  What is checked while a command is declared is kept in its
`Making`, so that no later proof goes through the checks again (`exists_making`).  It then holds of
a built type and of every type below it: the keys of its names are different, each of its commands
has its canonical name among its names (`Built.isNamed`), and the types that its commands hand their
tokens to are built (`Built.nested`).
-/

namespace CommandSpec

/-- The types of the fields of a declaration. -/
def Declaration.fieldTypes (d : Declaration) : List CommandType :=
  d.body.filterMap fun
    | (_, .field ⟨.type u, _⟩) => some u
    | _ => none

/-- The types that a declaration refers to: its members, and those of its fields. -/
def Declaration.RefersTo (d : Declaration) (u : CommandType) : Prop := u ∈ d.types ++ d.fieldTypes

theorem Declaration.refersTo_of_field {d : Declaration} {attr : String} {a : Argument}
    {u : CommandType} (ha : (attr, BodyEntry.field a) ∈ d.body) (hu : a.conversion = .type u) :
    d.RefersTo u := by
  refine List.mem_append_right _ (List.mem_filterMap.2 ⟨_, ha, ?_⟩)
  obtain ⟨conversion, isPath⟩ := a
  subst hu
  rfl

/-- What a type holds beside its body is its documentation and its place. -/
theorem Declaration.lookup_described {d : Declaration} {method : String}
    (hdescribed : method ∉ [docName, placeName]) : d.described.lookup method = none :=
  List.lookup_eq_none_iff.2 fun e he => by
    have hmem := (List.mem_filter.1 he).1
    simp only [List.mem_cons, List.not_mem_nil, or_false, not_or] at hmem hdescribed
    obtain rfl | rfl := hmem
    · simpa using hdescribed.1
    · simpa using hdescribed.2

/-- What is no field in a body is held by the type, of either kind. -/
theorem Declaration.lookup_shared {d : Declaration} {method : String}
    (hfield : ∀ a, d.body.lookup method ≠ some (.field a))
    (hdescribed : method ∉ [docName, placeName]) (kind : Kind) :
    (d.shared kind).lookup method = (d.body.lookup method).bind (·.sharedBy? kind) := by
  rw [shared, List.lookup_append, lookup_described hdescribed, Option.or_none]
  generalize d.body = body at hfield
  induction body with
  | nil => rfl
  | cons e body ih =>
    obtain ⟨name, entry⟩ := e
    by_cases hname : method = name
    · subst hname
      rw [List.lookup_cons_self] at hfield ⊢
      cases entry with
      | field a => exact absurd rfl (hfield a)
      | member t => simp
      | constant x => simp
    · have hne : (method == name) = false := by simpa using hname
      rw [List.lookup_cons, hne] at hfield ⊢
      rw [← ih hfield, List.filterMap_cons]
      cases entry.sharedBy? kind with
      | none => rfl
      | some held => simp only [Option.map_some, List.lookup_cons, hne]

/-- What is not in a body is not held by the type. -/
theorem Declaration.lookup_shared_eq_none {d : Declaration} {method : String}
    (h : d.body.lookup method = none) (hdescribed : method ∉ [docName, placeName]) (kind : Kind) :
    (d.shared kind).lookup method = none := by
  rw [lookup_shared (fun a ha => nomatch h.symm.trans ha) hdescribed, h]
  rfl

namespace CommandType

/-- **The types that there are**: the roots, and those declared with the help of such types. -/
inductive Built : CommandType → Prop
  | root (kind : Kind) : Built (.root kind)
  | declare {serial : Nat} {d : Declaration} {t : CommandType} {log log' : List Event}
    (below : ∀ u, d.RefersTo u → Built u) (h : declare serial d log = .ok t log') : Built t

/-- **The names of a type**: their keys are different, and each command goes by one of its own. -/
structure IsNamed (t : CommandType) : Prop where
  nodup_keys : (Trie.keys t.identifiers).Nodup
  canonical_mem : ∀ c ∈ t.members, c.name ∈ c.names

theorem isNamed_root (kind : Kind) : (root kind).IsNamed :=
  ⟨List.nodup_nil, fun _ hc => nomatch hc⟩

/-! ## Checks -/

theorem checkTrie_eq_ok {t : CommandType} {log log' : List Event}
    (h : checkTrie t log = .ok () log') : (Trie.keys t.identifiers).Nodup := by
  simp only [checkTrie, bind_eq_ok_iff, Logged.check_eq_ok_iff] at h
  obtain ⟨trie, -, ⟨htrie, -⟩, -⟩ := h
  exact (Trie.ofList?_eq_ok_iff.1 htrie).1

/-- The documentation of a command names it. -/
theorem canonical_mem_of_read {text : Option String} {docs : CommandDocs} {log log' : List Event}
    (h : Docs.read text log = .ok docs log') : docs.usage.canonical ∈ docs.usage.ids := by
  obtain ⟨_, _, usage, _, _, _, _, husage, _, _, _, rfl⟩ := Docs.read_eq_ok_iff.1 h
  have hids := Usage.ids_ne_nil (Docs.readUsage_eq_ok_iff.1 husage).1
  rw [Usage.canonical]
  cases hu : usage.ids with
  | nil => exact absurd hu hids
  | cons id ids => exact List.mem_cons_self ..

/-! ## Declared commands -/

/-- **What a command is made from**: the declarations of its fields, its documentation, the layout
that comes of both, and the name of its type. -/
structure Making (serial : Nat) (d : Declaration) where
  declared : List (String × Argument)
  docs : CommandDocs
  layout : Layout
  owner : TypeName
  fieldsOf_eq : fieldsOf d.name.short d.body = .ok declared
  exists_read : ∃ doc log log', d.docs? "strip" = .ok doc ∧ Docs.read doc log = .ok docs log'
  layout_eq : Layout.of? docs.usage declared d.delegates = .ok layout
  checkNames_eq : Parameter.checkNames layout.attributes = .ok ()
  owner_eq : typeName d layout.attributes = .ok owner

namespace Making

variable {serial : Nat} {d : Declaration}

/-- The command that is made. -/
def command (m : Making serial d) : Member where
  id := {
    serial
    name := m.docs.usage.canonical
    aliases := m.docs.usage.ids.tail
    owner := m.owner
    delegates := d.delegates }
  docs := m.docs
  required := m.layout.required
  optional := m.layout.optional
  rest := m.layout.rest
  shared := d.shared .command

theorem canonical_mem (m : Making serial d) : m.docs.usage.canonical ∈ m.docs.usage.ids := by
  obtain ⟨doc, log, log', -, hdocs⟩ := m.exists_read
  exact canonical_mem_of_read hdocs

/-- The type that a command hands its tokens to is one of its declaration's fields. -/
theorem refersTo (m : Making serial d) {u : CommandType} (hu : m.command.nested? = some u) :
    d.RefersTo u := by
  obtain ⟨r, hr, hkind⟩ := Option.bind_eq_some_iff.1 hu
  obtain ⟨attr, a, ha, hconversion⟩ := Layout.exists_of_target? m.layout_eq hr hkind
  exact Declaration.refersTo_of_field (mem_of_fieldsOf m.fieldsOf_eq ha) hconversion

end Making

/-- **A command that is declared has been made**, and its names have different keys. -/
theorem exists_making {serial : Nat} {d : Declaration} {t : CommandType} {log log' : List Event}
    (h : declareCommand serial d log = .ok t log') :
    ∃ m : Making serial d, t = single m.command ∧ (Trie.keys t.identifiers).Nodup := by
  simp only [declareCommand, bind_eq_ok_iff, Logged.check_eq_ok_iff, pure_eq_ok_iff] at h
  obtain ⟨declared, _, ⟨hdeclared, -⟩, doc, _, ⟨hdoc, -⟩, docs, _, hdocs, layout, _, ⟨hlayout, -⟩,
    _, _, ⟨hnames, -⟩, owner, _, ⟨howner, -⟩, _, _, hcheck, _, _, -, rfl, -⟩ := h
  exact ⟨⟨declared, docs, layout, owner, hdeclared, ⟨doc, _, _, hdoc, hdocs⟩, hlayout, hnames,
    howner⟩, rfl, checkTrie_eq_ok hcheck⟩

/-- **A command that is declared** shares what its declaration says, has its number and its name,
and hands its tokens to a type of its fields. -/
theorem of_declareCommand {serial : Nat} {d : Declaration} {t : CommandType} {log log' : List Event}
    (h : declareCommand serial d log = .ok t log') :
    ∃ c, t = single c ∧ c.shared = d.shared .command ∧ c.id.serial = serial ∧ (single c).IsNamed ∧
      ∀ u, c.nested? = some u → d.RefersTo u := by
  obtain ⟨m, rfl, hkeys⟩ := exists_making h
  refine ⟨m.command, rfl, rfl, rfl, ⟨hkeys, fun c hc => ?_⟩, fun u => m.refersTo⟩
  obtain rfl := List.mem_singleton.1 hc
  exact m.canonical_mem

/-! ## Declared families -/

/-- The members of a family are among the types that it lists. -/
theorem mem_of_membersOf {type : String} {c : Member} :
    ∀ {ts : List CommandType} {found members : List Member},
      membersOf type found ts = .ok members → c ∈ members → c ∈ found ∨ single c ∈ ts := by
  intro ts
  induction ts with
  | nil =>
    intro found members h hc
    rw [membersOf, Except.ok.injEq] at h
    subst h
    exact .inl hc
  | cons t ts ih =>
    intro found members h hc
    unfold membersOf at h
    split at h
    · split at h
      · next d =>
        rcases ih h hc with hfound | hts
        · split at hfound
          · exact .inl hfound
          · rcases List.mem_append.1 hfound with hfound | hd
            · exact .inl hfound
            · obtain rfl := List.mem_singleton.1 hd
              exact .inr (List.mem_cons_self ..)
        · exact .inr (List.mem_cons_of_mem _ hts)
      · cases h
    · rcases ih h hc with hfound | hts
      · exact .inl hfound
      · exact .inr (List.mem_cons_of_mem t hts)

/-- **A family that is declared** shares what its declaration says, has its number and members that
it refers to, and the names of these have different keys. -/
theorem of_declareFamily {serial : Nat} {d : Declaration} {t : CommandType} {log log' : List Event}
    (h : declareFamily serial d log = .ok t log') :
    t.shared = d.shared .family ∧ t.kind = .family ∧ t.serial? = some serial ∧
      (Trie.keys t.identifiers).Nodup ∧ ∀ c ∈ t.members, d.RefersTo (single c) := by
  rw [declareFamily] at h
  cases hextra : d.extras.findSome? shownUnlessCommand with
  | some shown =>
    rw [hextra] at h
    cases h
  | none =>
    rw [hextra] at h
    dsimp only at h
    obtain ⟨members, _, hmembers, h⟩ := bind_eq_ok_iff.1 h
    by_cases hempty : members.isEmpty = true
    · rw [if_pos hempty] at h
      cases h
    · rw [if_neg hempty] at h
      simp only [bind_eq_ok_iff, Logged.check_eq_ok_iff, pure_eq_ok_iff] at h hmembers
      obtain ⟨doc, _, ⟨-, -⟩, name, _, ⟨-, -⟩, _, _, hcheck, _, _, -, rfl, -⟩ := h
      refine ⟨rfl, rfl, rfl, checkTrie_eq_ok hcheck, fun c hc => List.mem_append_left _ ?_⟩
      rcases mem_of_membersOf hmembers.1 hc with hfound | htypes
      · cases hfound
      · exact htypes

/-! ## Built types -/

/-- **A declared type is a command or a family.** -/
theorem of_declare {serial : Nat} {d : Declaration} {t : CommandType} {log log' : List Event}
    (h : declare serial d log = .ok t log') :
    declareCommand serial d log = .ok t log' ∨ declareFamily serial d log = .ok t log' := by
  unfold declare at h
  cases hkind : d.bases.findSome? kindFault? with
  | some e =>
    rw [hkind] at h
    cases h
  | none =>
    rw [hkind] at h
    cases hbases : d.bases.map kind? with
    | nil =>
      rw [hbases] at h
      cases h
    | cons k ks =>
      rw [hbases] at h
      dsimp only at h
      by_cases hmixed : ks.any (· ≠ k) = true
      · rw [if_pos hmixed] at h
        cases h
      · rw [if_neg hmixed] at h
        rcases k with _ | _ | _
        · cases h
        · exact .inl h
        · exact .inr h

/-- A type that is derived from the root of the commands is declared as a command. -/
theorem declare_eq_command {serial : Nat} {d : Declaration} (hbases : d.bases = [.root .command]) :
    declare serial d = declareCommand serial d := by
  rw [declare, hbases]
  rfl

/-- A type that is derived from the root of the families is declared as a family. -/
theorem declare_eq_family {serial : Nat} {d : Declaration} (hbases : d.bases = [.root .family]) :
    declare serial d = declareFamily serial d := by
  rw [declare, hbases]
  rfl

/-- A declared type shares what its declaration says. -/
theorem shared_of_declare {serial : Nat} {d : Declaration} {t : CommandType} {log log' : List Event}
    (h : declare serial d log = .ok t log') : t.shared = d.shared t.kind := by
  rcases of_declare h with h | h
  · obtain ⟨c, rfl, hshared, -⟩ := of_declareCommand h
    exact hshared
  · obtain ⟨hshared, hkind, -⟩ := of_declareFamily h
    rw [hkind, hshared]

/-- A declared type has the number of its declaration. -/
theorem serial?_of_declare {serial : Nat} {d : Declaration} {t : CommandType}
    {log log' : List Event} (h : declare serial d log = .ok t log') : t.serial? = some serial := by
  rcases of_declare h with h | h
  · obtain ⟨c, rfl, -, hserial, -⟩ := of_declareCommand h
    exact congrArg some hserial
  · exact (of_declareFamily h).2.2.1

theorem Built.spec {t : CommandType} (ht : Built t) :
    t.IsNamed ∧ ∀ c ∈ t.members, ∀ u, c.nested? = some u → Built u := by
  induction ht with
  | root kind => exact ⟨isNamed_root kind, fun _ hc => nomatch hc⟩
  | @declare serial d t log log' below h ih =>
    rcases of_declare h with h | h
    · obtain ⟨c, rfl, -, -, hnamed, hnested⟩ := of_declareCommand h
      refine ⟨hnamed, fun c' hc u hu => ?_⟩
      obtain rfl := List.mem_singleton.1 hc
      exact below u (hnested u hu)
    · obtain ⟨-, -, -, hkeys, hmembers⟩ := of_declareFamily h
      have hself : ∀ c : Member, c ∈ (single c).members := fun c => List.mem_singleton_self c
      refine ⟨⟨hkeys, fun c hc => ?_⟩, fun c hc u hu => ?_⟩
      · exact (ih _ (hmembers c hc)).1.canonical_mem c (hself c)
      · exact (ih _ (hmembers c hc)).2 c (hself c) u hu

/-- **The names of a built type** have different keys, and each command goes by one of its own. -/
theorem Built.isNamed {t : CommandType} (ht : Built t) : t.IsNamed := ht.spec.1

/-- **The types below a built type are built.** -/
theorem Built.nested {t : CommandType} (ht : Built t) {c : Member} (hc : c ∈ t.members)
    {u : CommandType} (hu : c.nested? = some u) : Built u := ht.spec.2 c hc u hu

end CommandType

end CommandSpec
