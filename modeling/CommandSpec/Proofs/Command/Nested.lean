import CommandSpec.Proofs.Command.Topics

/-!
# Proofs/Command/Nested — which nested types are accepted, and what comes of reading them

A rest field hands its tokens to a type.  Whether it can do so is decided while its command is
declared: where what it is declared with lacks the method for it (`Usage.LacksReader`), the class is
refused.  A type that is accepted has been built, so that all readings of all tokens end in a value
or in a fault of their own (`CommandType.ReadingsEnd`), provided that no root stands among the
nested types, nothing that is no type, and that their bodies leave the methods that read alone
(`CommandType.Readable`).  The declaration looks for none of these.  A root that is accepted fails
at the first token (`CommandType.Built.parse_of_root`); so does whatever else has the method, as the
path of a command, and as the command itself it does what its method does
(`CommandType.Built.parse_of_foreign`).
-/

namespace CommandSpec

open TokenReading

/-! ## What is accepted -/

/-- **An argument that is read as a whole is declared with nothing that can read it**: each argument
of a command that delegates is read so, and so is a path. -/
def Usage.LacksReader (usage : Usage) (declared : List (String × Argument)) (delegates : Bool) :
    Prop :=
  ∃ name ∈ usage.names, ∃ a, declared.lookup (attributeName name) = some a ∧
    (delegates = true ∨ a.isPath = true) ∧
    ∃ f, a.conversion = .function f ∧ f.reader? (nestedMethod !delegates) = none

namespace Layout

variable {usage : Usage} {declared : List (String × Argument)} {delegates : Bool} {layout : Layout}

/-- Every argument of a usage is bound to the declaration under its attribute. -/
theorem exists_bound_of_mem {command name : String} {isRest : Bool} {names : List String}
    {bound : List BoundArgument}
    (h : names.mapM (BoundArgument.of? command declared isRest) = .ok bound) (hname : name ∈ names)
    {a : Argument} (ha : declared.lookup (attributeName name) = some a) :
    ⟨name, attributeName name, a⟩ ∈ bound ∧ (a.isPath = true → isRest = true) := by
  rw [← BoundArgument.map_name h] at hname
  obtain ⟨b, hb, rfl⟩ := List.mem_map.1 hname
  obtain ⟨name, hof⟩ := BoundArgument.exists_of_mem h b hb
  obtain ⟨a', ha', hpath, rfl⟩ := BoundArgument.of?_eq_ok_iff.1 hof
  obtain rfl := Option.some.inj (ha.symm.trans ha')
  exact ⟨hb, hpath⟩

/-- A plain field is no nested one. -/
theorem not_mem_plain {required optional : List BoundArgument}
    {rest : Option (BoundArgument × Bool)} {restField : Option (RestField CommandType)}
    {command : String}
    (h : restField? command delegates (required ++ optional) rest = .ok restField)
    {b : BoundArgument} (hnested : delegates = true ∨ b.argument.isPath = true)
    (hpath : b.argument.isPath = true → false = true) : b ∉ required ++ optional := by
  obtain rfl := hnested.resolve_right fun hb => Bool.false_ne_true (hpath hb)
  unfold restField? at h
  rw [if_pos rfl] at h
  obtain ⟨r, hr, -⟩ := except_map_eq_ok_iff.1 h
  obtain ⟨-, -, -, hnil, -⟩ := of_delegatingRest hr
  rw [hnil]
  exact List.not_mem_nil

/-- A nested rest field is read by its conversion as a whole. -/
theorem exists_kind_of_restField? {command : String} {plain : List BoundArgument}
    {b : BoundArgument} {isRequired : Bool} {restField : Option (RestField CommandType)}
    (h : restField? command delegates plain (some (b, isRequired)) = .ok restField)
    (hnested : delegates = true ∨ b.argument.isPath = true) :
    ∃ kind, b.argument.conversion.nested? (!delegates) = some kind := by
  have hsome : ∃ r, restField = some r := by
    unfold restField? at h
    split at h
    · obtain ⟨r, -, rfl⟩ := except_map_eq_ok_iff.1 h
      exact ⟨r, rfl⟩
    · obtain ⟨r, -, rfl⟩ := except_map_eq_ok_iff.1 h
      exact ⟨r, rfl⟩
  obtain ⟨r, rfl⟩ := hsome
  obtain ⟨b', _, hb, ⟨rfl, -, hkind⟩ | ⟨rfl, -, hkind⟩ | ⟨hdelegates, hpath, -⟩⟩ :=
    kind_of_restField? h
  · obtain ⟨rfl, -⟩ := Prod.mk.inj (Option.some.inj hb)
    exact ⟨_, hkind⟩
  · obtain ⟨rfl, -⟩ := Prod.mk.inj (Option.some.inj hb)
    exact ⟨_, hkind⟩
  · obtain ⟨rfl, -⟩ := Prod.mk.inj (Option.some.inj hb)
    rw [hdelegates, hpath] at hnested
    exact absurd hnested (by decide)

/-- **Whatever else is nested is rejected**: where an argument is declared with what cannot read it
as a whole, there is no layout. -/
theorem exists_error_of_lacksReader (hlacks : usage.LacksReader declared delegates) :
    ∃ e, of? usage declared delegates = .error e := by
  obtain ⟨name, hname, a, ha, hnested, hfunction⟩ := hlacks
  cases h : of? usage declared delegates with
  | error e => exact ⟨e, rfl⟩
  | ok layout =>
    obtain ⟨-, required, optional, rest, restField, hrequired, hoptional, hrest, hfield, -⟩ :=
      of?_eq_ok_iff.1 h
    rw [Usage.names_eq, List.mem_append, List.mem_append] at hname
    obtain (hname | hname) | hname := hname
    · obtain ⟨hmem, hpath⟩ := exists_bound_of_mem hrequired hname ha
      exact absurd (List.mem_append_left _ hmem) (not_mem_plain hfield hnested hpath)
    · obtain ⟨hmem, hpath⟩ := exists_bound_of_mem hoptional hname ha
      exact absurd (List.mem_append_right _ hmem) (not_mem_plain hfield hnested hpath)
    · obtain ⟨r, hr, rfl⟩ := List.mem_map.1 hname
      rw [Option.mem_toList.1 hr] at hrest
      obtain ⟨b, hb, rfl⟩ := except_map_eq_ok_iff.1 hrest
      obtain ⟨a', ha', -, rfl⟩ := BoundArgument.of?_eq_ok_iff.1 hb
      obtain rfl := Option.some.inj (ha.symm.trans ha')
      obtain ⟨kind, hkind⟩ := exists_kind_of_restField? hfield hnested
      cases (Conversion.nested?_eq_none_iff.2 hfunction).symm.trans hkind

end Layout

/-- A declaration that has nothing in its body but fields. -/
def Declaration.HasFieldsOnly (d : Declaration) : Prop := ∀ e ∈ d.body, ∃ a, e.2 = .field a

/-- The command of such a declaration has nothing in the place of a method. -/
theorem Declaration.HasFieldsOnly.lookup_shared {d : Declaration} (hd : d.HasFieldsOnly)
    {method : String} (hdescribed : method ∉ [docName, placeName]) :
    (d.shared .command).lookup method = none := by
  have hnone : d.body.filterMap (fun e => (e.2.sharedBy? .command).map (e.1, ·)) = [] :=
    List.filterMap_eq_nil_iff.2 fun e he => by
      obtain ⟨a, ha⟩ := hd e he
      rw [ha]
      rfl
  rw [shared, hnone, List.nil_append, lookup_described hdescribed]

/-- **The class of a usage and of the declarations of its fields**: it is derived from the root of
the commands, it has nothing but fields in its body, and its documentation has the usage. -/
structure Declaration.IsClassOf (d : Declaration) (usage : Usage)
    (declared : List (String × Argument)) (delegates : Bool) (log log' : List Event) : Prop where
  bases_eq : d.bases = [.root .command]
  hasFieldsOnly : d.HasFieldsOnly
  fields_eq : fieldsOf d.name.short d.body = .ok declared
  delegates_eq : d.delegates = delegates
  reads : ∃ text docs, d.docs? "strip" = .ok text ∧ Docs.read text log = .ok docs log' ∧
    docs.usage = usage

namespace CommandType

/-- **A class whose fields have no layout** is refused with the fault of its structure. -/
theorem declare_of_layout_error {serial : Nat} {d : Declaration} {usage : Usage}
    {declared : List (String × Argument)} {delegates : Bool} {log log' : List Event}
    {e : StructureFault} (hd : d.IsClassOf usage declared delegates log log')
    (h : Layout.of? usage declared delegates = .error e) :
    declare serial d log = .error e.fault log' := by
  obtain ⟨hbases, -, hfields, rfl, text, docs, htext, hdocs, rfl⟩ := hd
  rw [declare_eq_command hbases, declareCommand, hfields, htext]
  refine (bind_of_ok rfl).trans ((bind_of_ok rfl).trans ((bind_of_ok hdocs).trans ?_))
  rw [h]
  exact bind_of_error rfl

/-! ## What is read of an accepted type -/

/-- The methods that a nested type is asked for. -/
def askedMethods : List String := ["parse", "parse_path", "parse_path_opt", "help", "names"]

theorem not_described_of_asked :
    ∀ method ∈ askedMethods, method ∉ [Declaration.docName, Declaration.placeName] := by decide

/-- **A type can be read**: it is no root, nothing stands in the place of its methods, its commands
hand their tokens to types only, and each of these can be read. -/
inductive Readable : CommandType → Prop
  | intro {t : CommandType} (isRoot_eq : t.isRoot = false)
    (instead?_eq : ∀ method ∈ askedMethods, t.instead? method = none)
    (nestsTypes : ∀ c ∈ t.members, c.NestsTypes)
    (nested : ∀ c ∈ t.members, ∀ u, c.nested? = some u → Readable u) : Readable t

variable {t : CommandType} {token : String} {c : Member}

namespace Readable

theorem isRoot_eq (h : t.Readable) : t.isRoot = false := by
  obtain ⟨isRoot_eq, -, -, -⟩ := h
  exact isRoot_eq

theorem instead?_eq (h : t.Readable) {method : String} (hmethod : method ∈ askedMethods) :
    t.instead? method = none := by
  obtain ⟨-, instead?_eq, -, -⟩ := h
  exact instead?_eq method hmethod

theorem nestsTypes (h : t.Readable) (hc : c ∈ t.members) : c.NestsTypes := by
  obtain ⟨-, -, nestsTypes, -⟩ := h
  exact nestsTypes c hc

theorem nested (h : t.Readable) (hc : c ∈ t.members) {u : CommandType} (hu : c.nested? = some u) :
    u.Readable := by
  obtain ⟨-, -, -, nested⟩ := h
  exact nested c hc u hu

theorem rootless (h : t.Readable) : t.Rootless := by
  induction h with
  | intro isRoot_eq _ nestsTypes _ ih => exact .intro isRoot_eq nestsTypes ih

theorem readsRest_of_mem (h : t.Readable) (hc : c ∈ t.members) : c.ReadsRest := by
  intro r hr
  obtain ⟨name, attr, isRequired, kind⟩ := r
  cases kind with
  | tokens converter => rfl
  | path u =>
    have hmethod : pathMethod isRequired ∈ askedMethods := by cases isRequired <;> decide
    exact (h.nested hc (nested?_of_rest hr rfl)).instead?_eq hmethod
  | subcommand u => exact (h.nested hc (nested?_of_rest hr rfl)).instead?_eq (by decide)
  | foreign isPath callable => cases h.nestsTypes hc _ hr

theorem readsRest (h : t.Readable) : t.Throughout Command.ReadsRest := by
  induction h with
  | intro isRoot_eq instead?_eq nestsTypes nested ih =>
    exact .intro (fun _ =>
      (Readable.intro isRoot_eq instead?_eq nestsTypes nested).readsRest_of_mem)
      fun c hc u hu => ih c hc u (nested?_of_subcommands? hu)

theorem keeps (h : t.Readable) {method : String} (hmethod : method ∈ askedMethods) :
    t.Throughout (Command.Keeps method) := by
  induction h with
  | intro _ _ _ nested ih =>
    exact .intro (fun c hc u hu => (nested c hc u (nested?_of_subcommands? hu)).instead?_eq hmethod)
      fun c hc u hu => ih c hc u (nested?_of_subcommands? hu)

theorem namesFault?_eq (h : t.Readable) : t.namesFault? = none := by
  rw [namesFault?, h.instead?_eq (by decide)]
  rfl

end Readable

/-- **A command that is declared with fields only** can be read, if what it hands its tokens to is a
type that can. -/
theorem readable_of_declare {serial : Nat} {d : Declaration} {log log' : List Event}
    (hbases : d.bases = [.root .command]) (hd : d.HasFieldsOnly)
    (h : declare serial d log = .ok t log') (hnests : ∀ c ∈ t.members, c.NestsTypes)
    (hnested : ∀ c ∈ t.members, ∀ u, c.nested? = some u → u.Readable) : t.Readable := by
  rw [declare_eq_command hbases] at h
  obtain ⟨c, rfl, hshared, -⟩ := of_declareCommand h
  refine .intro rfl (fun method hmethod => ?_) hnests hnested
  rw [instead?, shared, hshared]
  exact hd.lookup_shared (not_described_of_asked method hmethod)

/-! ## What is accepted and cannot be read -/

/-- **The fault of a rest field** is that of its command, where the fields before it have taken
their tokens and others are left for it. -/
theorem Built.parse_of_restValue (ht : Built t) (hc : t.ResolvesTo token c)
    {r : RestField CommandType} (hr : c.rest = some r) {ts : List String}
    (haccept : Takers.AcceptAll (c.plain[·]?) ts) (hleft : c.plain.length < ts.length) {e : Fault}
    {ts' : List String}
    (h : c.restValue r (fun u _ => u.readTokens) (ts.drop c.plain.length) = .error e ts') :
    t.parse (.ofList (token :: ts)) = .error e := by
  have hleast : c.required.length ≤ ts.length := c.length_required_le.trans hleft.le
  have hne : ts.drop c.plain.length ≠ [] := List.drop_eq_nil_iff.not.2 hleft.not_ge
  have hrest : c.restTokens (fun u _ => u.readTokens) (ts.drop c.plain.length) = .error e ts' := by
    rw [Command.restTokens_eq_of_some hr, if_neg fun h => hne h.1]
    exact map_of_error h
  rw [ht.parse_of_resolvesTo hc, Command.fieldTokens_eq,
    bind_of_ok (Command.plainTokens_of_acceptAll haccept hleast), bind_of_error hrest]
  rfl

/-- The fault of reading tokens against a root, which has no trie. -/
def noTrie (kind : Kind) : Fault := (root kind).noAttr "__trie__"

theorem readTokens_root (kind : Kind) (token : String) (ts : List String) :
    (root kind).readTokens (token :: ts) = .error (noTrie kind) ts := by
  rw [readTokens]
  rfl

theorem pathTokens_root (kind : Kind) (token : String) (ts : List String) :
    (root kind).pathTokens (token :: ts) = .error (noTrie kind) ts := by
  rw [pathTokens]
  rfl

/-- A rest field of a root cannot take a token. -/
theorem restValue_root {r : RestField CommandType} {kind : Kind}
    (hu : r.kind.target? = some (root kind)) (token : String) (ts : List String) :
    c.restValue r (fun u _ => u.readTokens) (token :: ts) =
      .error (noTrie kind) ts := by
  obtain ⟨name, attr, isRequired, _ | u | u | _⟩ := r
  · cases hu
  · obtain rfl : u = root kind := Option.some.inj hu
    have hfield : (root kind).pathFieldTokens isRequired (token :: ts) =
        .error (noTrie kind) ts := by
      rw [pathFieldTokens_eq isRequired rfl (List.cons_ne_nil _ _)]
      exact map_of_error (pathTokens_root kind token ts)
    exact wrapping_of_error hfield
  · obtain rfl : u = root kind := Option.some.inj hu
    exact wrapping_of_error (readTokens_root kind token ts)
  · cases hu

/-- **A root is accepted but cannot be read**: whatever is left for it, it is asked for the trie
that it does not have. -/
theorem Built.parse_of_root (ht : Built t) (hc : t.ResolvesTo token c) {r : RestField CommandType}
    (hr : c.rest = some r) {kind : Kind} (hu : r.kind.target? = some (.root kind))
    {ts : List String} (haccept : Takers.AcceptAll (c.plain[·]?) ts)
    (hleft : c.plain.length < ts.length) :
    t.parse (.ofList (token :: ts)) = .error (noTrie kind) := by
  have hne : ts.drop c.plain.length ≠ [] := List.drop_eq_nil_iff.not.2 hleft.not_ge
  obtain ⟨next, more, hdrop⟩ := List.exists_cons_of_ne_nil hne
  exact ht.parse_of_restValue hc hr haccept hleft (hdrop ▸ restValue_root hu next more)

theorem Built.parsePath_of_root (ht : Built t) (hc : t.ResolvesTo token c) {kind : Kind}
    (hu : c.subcommands? = some (.root kind)) (next : String) (ts : List String) :
    t.parsePath (.ofList (token :: next :: ts)) = .error (noTrie kind) := by
  rw [parsePath_ofList, ht.pathTokens_below hc hu (List.cons_ne_nil next ts),
    map_of_error (pathTokens_root kind next ts)]
  rfl

/-- **What is no type fails to read tokens**: the method by which a rest field is read ends in a
fault that is none of commands, or none of paths where it is read as one. -/
inductive FailsForeign : RestField CommandType → List String → Fault → Prop
  | command {name attr : String} {isRequired : Bool} {callable : Converter} {ts ts' : List String}
    {e : Fault} (h : TokenReading.call callable "parse" ts = .error e ts')
    (he : e.isCommandFault = false) :
    FailsForeign ⟨name, attr, isRequired, .foreign false callable⟩ ts e
  | path {name attr : String} {isRequired : Bool} {callable : Converter} {ts ts' : List String}
    {e : Fault} (h : TokenReading.call callable (pathMethod isRequired) ts = .error e ts')
    (he : e.isPathFault = false) :
    FailsForeign ⟨name, attr, isRequired, .foreign true callable⟩ ts e

/-- Such a fault passes as it is. -/
theorem FailsForeign.restValue {r : RestField CommandType} {ts : List String} {e : Fault}
    (h : FailsForeign r ts e) :
    ∃ ts', c.restValue r (fun u _ => u.readTokens) ts = .error e ts' := by
  cases h with
  | command h he => exact ⟨_, wrapping_of_other h he⟩
  | path h he => exact ⟨_, wrapping_of_other h he⟩

/-- **What is no type is accepted for its method**, whatever comes of it: its fault is that of the
command. -/
theorem Built.parse_of_foreign (ht : Built t) (hc : t.ResolvesTo token c)
    {r : RestField CommandType} (hr : c.rest = some r) {ts : List String}
    (haccept : Takers.AcceptAll (c.plain[·]?) ts) (hleft : c.plain.length < ts.length) {e : Fault}
    (h : FailsForeign r (ts.drop c.plain.length) e) :
    t.parse (.ofList (token :: ts)) = .error e := by
  obtain ⟨ts', hvalue⟩ := h.restValue
  exact ht.parse_of_restValue hc hr haccept hleft hvalue

/-- A path cannot go on below what is no type. -/
theorem Built.parsePath_of_foreign (ht : Built t) (hc : t.ResolvesTo token c) {callable : Converter}
    (hforeign : c.foreign? = some callable) (next : String) (ts : List String) :
    t.parsePath (.ofList (token :: next :: ts)) = .error (callable.lacks "__trie__").fault := by
  rw [parsePath_ofList, ht.pathTokens_cons hc, Command.belowTokens_of_foreign hforeign]
  rfl

/-! ## The law -/

/-- **The readings of some tokens end**: they are parsed as a command, with a complete value if the
commands make their values by themselves, or have a fault of commands, or the value of a command
whose names are taken cannot be made; they are parsed as a path or have a fault of paths; and help
with them gives a topic or has a fault of paths. -/
structure ReadingsEnd (t : CommandType) (ts : List String) : Prop where
  parse : (∃ v, t.parse (.ofList ts) = .ok v ∧ t.IsCompleteIfOwn v) ∨
    ∃ e, t.parse (.ofList ts) = .error e ∧
      (e.isCommandFault = true ∨ ¬ t.Throughout Command.IsFree ∧ t.Unmade e)
  parsePath : (∃ p, t.parsePath (.ofList ts) = .ok p ∧ t.HasPath p) ∨
    ∃ e, t.parsePath (.ofList ts) = .error e ∧ e.isPathFault = true
  help : ∀ (s : Session) (source : Source) (v : Value), s.Gives source v ts →
    ∃ s', (∃ topic, Step.topicFor t source v s = .ok topic s') ∨
      ∃ e, Step.topicFor t source v s = .error (.fault e) s' ∧ e.isPathFault = true

/-- **The readings of a readable type end**, whatever the tokens. -/
theorem Built.readingsEnd (ht : Built t) (hread : t.Readable) (ts : List String) :
    t.ReadingsEnd ts where
  parse := by
    rw [parse_ofList]
    obtain h | ⟨e, he, hfails | hunmade⟩ :=
      (ht.ends_readTokens_or_unmade hread.rootless hread.readsRest ts).outcome
    · exact .inl h
    · exact .inr ⟨e, he, .inl hfails.isCommandFault⟩
    · exact .inr ⟨e, he, .inr ⟨hunmade.not_isFree, hunmade⟩⟩
  parsePath := by
    rw [parsePath_ofList]
    exact (ht.ends_pathTokens hread.rootless fun _ => hread.namesFault?_eq).outcome.imp id
      fun ⟨e, he, hfails⟩ => ⟨e, he, hfails.isPathFault⟩
  help := fun s source v hgives => by
    have hhelp : t.instead? "help" = none := hread.instead?_eq (by decide)
    have hreader : t.instead? "parse_path" = none := hread.instead?_eq (by decide)
    have hkeeps : t.Throughout (Command.Keeps "help") := hread.keeps (by decide)
    obtain ⟨s', ⟨p, c, -, -, -, -, htopic⟩ | ⟨e, -, he, htopic⟩⟩ :=
      ht.exists_topicFor_tokens hread.rootless hhelp hreader hgives
        (fun _ => hread.namesFault?_eq) fun p _ => .of_throughout hkeeps _
    · exact ⟨s', .inl ⟨_, htopic⟩⟩
    · exact ⟨s', .inr ⟨e, htopic, he⟩⟩

/-- **Nested types are accepted and read.**  For every usage, declarations and delegation, a rest
field that is read as a whole is accepted with the type that it is declared with, or with something
else that has the method; where it is declared with anything else, there is no layout, and the class
is refused with a fault of its structure.  In a class that is accepted, each nested type has been
built, and it has a trie unless it is a root.  If the class can be read, all readings of all tokens
end; and it can, with nothing but fields in its body, if what it hands its tokens to is a type that
can.  A root is accepted too, but it cannot be read, as command or as path, from any token.  So is
what is no type: no path goes on below it, and whatever its method fails with is the fault of the
command. -/
theorem nested_types_accepted (usage : Usage) (declared : List (String × Argument))
    (delegates : Bool) :
    (∀ layout r, Layout.of? usage declared delegates = .ok layout → layout.rest = some r →
      (∀ f, r.kind ≠ .tokens f) → ∃ a, declared.lookup (attributeName r.name) = some a ∧
        (delegates = true ∨ a.isPath = true) ∧
        ((∃ u, a.conversion = .type u ∧ r.kind.target? = some u) ∨
          ∃ f, a.conversion = .function f ∧ (f.reader? (nestedMethod !delegates)).isSome = true ∧
            r.kind = .foreign (!delegates) f)) ∧
    (usage.LacksReader declared delegates →
      (∃ e, Layout.of? usage declared delegates = .error e) ∧
      ∀ serial d log log', d.IsClassOf usage declared delegates log log' →
        ∃ e, declare serial d log = .error e log' ∧ e.kind = "InvalidStructureError") ∧
    ∀ serial d log log' t, (∀ u, d.RefersTo u → Built u) → declare serial d log = .ok t log' →
      (∀ c ∈ t.members, ∀ u, c.nested? = some u →
        Built u ∧ (u.isRoot = false → Trie.ofList? u.identifiers = .ok u.trie)) ∧
      (t.Readable → ∀ ts, t.ReadingsEnd ts) ∧
      (∀ log'', d.IsClassOf usage declared delegates log log'' →
        (∀ c ∈ t.members, c.NestsTypes) →
        (∀ c ∈ t.members, ∀ u, c.nested? = some u → u.Readable) → t.Readable) ∧
      (∀ token c r kind, t.ResolvesTo token c → c.rest = some r →
        r.kind.target? = some (.root kind) →
        (∀ ts, Takers.AcceptAll (c.plain[·]?) ts → c.plain.length < ts.length →
          t.parse (.ofList (token :: ts)) = .error (noTrie kind)) ∧
        (c.subcommands? = some (.root kind) → ∀ next ts,
          t.parsePath (.ofList (token :: next :: ts)) = .error (noTrie kind))) ∧
      ∀ token c r isPath f, t.ResolvesTo token c → c.rest = some r →
        r.kind = .foreign isPath f →
        (∀ ts e, Takers.AcceptAll (c.plain[·]?) ts → c.plain.length < ts.length →
          FailsForeign r (ts.drop c.plain.length) e → t.parse (.ofList (token :: ts)) = .error e) ∧
        (isPath = false → ∀ next ts,
          t.parsePath (.ofList (token :: next :: ts)) = .error (f.lacks "__trie__").fault) := by
  refine ⟨fun layout r h hr htokens => ?_, fun hlacks => ?_, ?_⟩
  · obtain ⟨a, ha, hkind, hnested⟩ := Layout.declared_of_rest h hr htokens
    refine ⟨a, ha, hnested, (Conversion.nested?_eq_some_iff.1 hkind).imp ?_ id⟩
    rintro ⟨u, hu, hkind⟩
    refine ⟨u, hu, ?_⟩
    rw [hkind]
    cases delegates <;> rfl
  · obtain ⟨e, he⟩ := Layout.exists_error_of_lacksReader hlacks
    exact ⟨⟨e, he⟩, fun serial d log log' hd => ⟨e.fault, declare_of_layout_error hd he, rfl⟩⟩
  · intro serial d log log' t below h
    have ht : Built t := .declare below h
    refine ⟨fun c hc u hu => ?_, ht.readingsEnd, fun log'' hd hnests hnested => ?_,
      fun token c r kind hc hr hu => ⟨?_, ?_⟩, fun token c r isPath f hc hr hkind => ⟨?_, ?_⟩⟩
    · have hbuilt := ht.nested hc hu
      exact ⟨hbuilt, fun _ => Trie.ofList?_eq_ok_iff.2 ⟨hbuilt.isNamed.nodup_keys, rfl⟩⟩
    · exact readable_of_declare hd.bases_eq hd.hasFieldsOnly h hnests hnested
    · exact fun ts => ht.parse_of_root hc hr hu
    · exact fun hsub next ts => ht.parsePath_of_root hc hsub next ts
    · exact fun ts e haccept hleft he => ht.parse_of_foreign hc hr haccept hleft he
    · rintro rfl
      exact ht.parsePath_of_foreign hc (Command.foreign?_of_rest hr hkind)

end CommandType

/-! ## Samples -/

namespace Sample

open CommandType
open Tinygit (declared declaration)

/-- A declared command with fields only can be read, if what it hands its tokens to is a type that
can. -/
theorem readable_declared {serial : Nat} {d : Declaration}
    (hroot : (declared serial d).isRoot = false) (hbases : d.bases = [.root .command])
    (hd : d.HasFieldsOnly) (hnests : ∀ c ∈ (declared serial d).members, c.NestsTypes)
    (hnested : ∀ c ∈ (declared serial d).members, ∀ u, c.nested? = some u → u.Readable) :
    (declared serial d).Readable := by
  obtain ⟨log, h⟩ | h := Tinygit.declared_cases serial d
  · exact readable_of_declare hbases hd h hnests hnested
  · rw [h] at hroot
    cases hroot

theorem readable_reader : reader.Readable := by
  refine readable_declared (isRoot_of_ne_nil forall_mem_reader.1) rfl ?_
    (fun _ => isOrdinary_reader.nests.of_mem) fun c hc u hu => ?_
  · exact List.forall_mem_singleton.2 ⟨_, rfl⟩
  · rw [Command.nested?, Option.isNone_iff_eq_none.1 (rest_reader c hc)] at hu
    cases hu

/-- The documentation of a command that takes another. -/
def takeDoc : String := "`take [it...]` Take.\n\n# Arguments\nit: Command."

/-- The declaration of a command whose argument has one conversion. -/
def takeDeclaration (conversion : Conversion) : Declaration :=
  declaration .command "Take" (some takeDoc) [("it", .field ⟨conversion, false⟩)] true

/-- The documentation of `take` has one argument. -/
theorem exists_read_takeDoc : ∃ docs log, Docs.read (some takeDoc) [] = .ok docs log ∧
    docs.usage.names = ["it"] := by
  have hread : (match Docs.read (some takeDoc) [] with
    | .ok docs _ => decide (docs.usage.names = ["it"])
    | .error _ _ => false) = true := by decide +kernel
  cases h : Docs.read (some takeDoc) [] with
  | error e log =>
    rw [h] at hread
    cases hread
  | ok docs log =>
    rw [h] at hread
    exact ⟨docs, log, rfl, of_decide_eq_true hread⟩

theorem isClassOf_take (conversion : Conversion) {docs : CommandDocs} {log : List Event}
    (hdocs : Docs.read (some takeDoc) [] = .ok docs log) :
    (takeDeclaration conversion).IsClassOf docs.usage [("it", ⟨conversion, false⟩)] true [] log
    where
  bases_eq := rfl
  hasFieldsOnly := List.forall_mem_singleton.2 ⟨_, rfl⟩
  fields_eq := rfl
  delegates_eq := rfl
  reads := ⟨_, docs, rfl, hdocs, rfl⟩

theorem exists_declare_take :
    ∃ log, declare 4 (takeDeclaration (.type reader)) [] = .ok taking log := by
  have hroot : taking.isRoot = false := isRoot_of_shape shape_taking
  obtain h | h := Tinygit.declared_cases 4 (takeDeclaration (.type reader))
  · exact h
  · have hrooted : taking = .root .command := h
    rw [hrooted] at hroot
    cases hroot

/-- `take` is accepted with the command `read`, and read from any tokens; with a function it is
refused. -/
theorem nested_types_accepted_taking :
    (∃ log, declare 4 (takeDeclaration (.type reader)) [] = .ok taking log) ∧
    (∃ c ∈ taking.members, c.nested? = some reader) ∧ reader.Readable ∧
    taking.ReadingsEnd ["take", "read", "x"] ∧
    ∃ e log, declare 4 (takeDeclaration (.function .text)) [] = .error e log ∧
      e.kind = "InvalidStructureError" := by
  obtain ⟨log', h⟩ := exists_declare_take
  obtain ⟨d, hresolves, htarget, -⟩ := exists_delegate_nesting built_taking shape_taking
  obtain ⟨docs, log, hdocs, hnames⟩ := exists_read_takeDoc
  refine ⟨⟨log', h⟩, ⟨d.command, hresolves.mem, htarget ▸ d.nested?_eq⟩, readable_reader, ?_, ?_⟩
  · have below : ∀ u, (takeDeclaration (.type reader)).RefersTo u → Built u := fun u hu => by
      obtain rfl := List.mem_singleton.1 hu
      exact built_reader
    have hnests : taking.Throughout Command.NestsTypes := nestsTypes_nesting isOrdinary_reader.nests
    obtain ⟨-, -, haccepted⟩ :=
      nested_types_accepted docs.usage [("it", ⟨.type reader, false⟩)] true
    obtain ⟨-, hends, hreadable, -⟩ := haccepted 4 _ [] log' _ below h
    refine hends (hreadable log (isClassOf_take _ hdocs) (fun _ => hnests.of_mem)
      fun c hc u hu => ?_) _
    exact refersTo_nesting_iff (Tinygit.refersTo_of_mem hc hu) ▸ readable_reader
  · have hlacks : docs.usage.LacksReader [("it", ⟨.function .text, false⟩)] true :=
      ⟨"it", hnames ▸ List.mem_singleton_self _, _, rfl, .inl rfl, _, rfl, rfl⟩
    obtain ⟨-, hrefused, -⟩ :=
      nested_types_accepted docs.usage [("it", ⟨.function .text, false⟩)] true
    obtain ⟨e, he⟩ := (hrefused hlacks).2 4 _ [] log (isClassOf_take _ hdocs)
    exact ⟨e, log, he⟩

/-- Without plain fields, every token is left for the rest field. -/
theorem left_of_plain_eq_nil {c : Member} (h : c.plain = []) (token : String) (ts : List String) :
    Takers.AcceptAll (c.plain[·]?) (token :: ts) ∧ c.plain.length < (token :: ts).length := by
  rw [h]
  refine ⟨fun k f hf => ?_, Nat.succ_pos _⟩
  cases hf

/-- A command that is accepted with the root of the commands. -/
def rooted : CommandType := nesting 0 "Outer" "`outer [it...]` Outer.\n\n# Arguments\nit: Command."
  (.root .command) []

/-- **A root is accepted for a nested type**, and so is a type with something else in the place of
its reader; but no token can be read of either. -/
theorem rooted_not_read :
    Built rooted ∧ (∃ c ∈ rooted.members, c.subcommands? = some (.root .command)) ∧
    rooted.parse (.ofList ["outer", "x"]) =
      .error (.foreign "AttributeError" "type object 'Command' has no attribute '__trie__'") ∧
    rooted.parsePath (.ofList ["outer", "x"]) =
      .error (.foreign "AttributeError" "type object 'Command' has no attribute '__trie__'") ∧
    Built (outer [("parse", .int 5)]) ∧
    (outer [("parse", .int 5)]).parse (.ofList ["outer", "inner", "leaf"]) =
      .error (.foreign "TypeError" "'int' object is not callable") := by
  have ht : Built rooted := built_nesting (.root .command)
  obtain ⟨d, hc, htarget, -⟩ := exists_delegate_nesting ht
    (show shape rooted = [("outer", true, some ("it", "it", false))] by decide +kernel)
  have hu : d.command.subcommands? = some (.root .command) :=
    htarget ▸ Command.subcommands?_of_rest d.rest_eq d.kind_eq
  obtain ⟨haccept, hleft⟩ := left_of_plain_eq_nil (ht.plain_eq_nil hc.mem hu) "x" []
  have htarget? : d.field.kind.target? = some (.root .command) := by
    rw [d.kind_eq, htarget]
    rfl
  exact ⟨ht, ⟨d.command, hc.mem, hu⟩, ht.parse_of_root hc d.rest_eq htarget? haccept hleft,
    ht.parsePath_of_root hc hu "x" [], built_outer _, parse_outer_parse⟩

/-! ### Something else than a type -/

/-- A class that formats texts.  Its method has the name of the one that reads a command, but wants
an argument more. -/
def formatter : Converter where
  label := "Formatter"
  convert _ := (.error (.foreign "TypeError" "Formatter() takes no arguments"), [])
  reader? method :=
    if method = "parse" then
      some (.done (.error (.foreign "TypeError"
        "Formatter.parse() missing 1 required positional argument: 'format_string'")))
    else none
  lacks := .noTypeAttribute "Formatter"

/-- A command that is accepted with this class. -/
def formatting : CommandType := declared 4 (takeDeclaration (.function formatter))

theorem built_formatting : Built formatting := Tinygit.built_declared fun _ hu => nomatch hu

/-- The class of a declaration is what its command hands its tokens to. -/
theorem eq_formatter {c : Member} (hc : c ∈ formatting.members) {r : RestField CommandType}
    (hr : c.rest = some r) {callable : Converter} (h : r.kind.foreign? = some callable) :
    callable = formatter := by
  have hall : formatting.Throughout fun c =>
      ∀ r ∈ c.rest, ∀ callable, r.kind.foreign? = some callable → callable = formatter := by
    refine Tinygit.throughout_declared (fun m r hr callable hforeign => ?_) fun _ hu => nomatch hu
    obtain ⟨attr, a, ha, hfunction, -⟩ := Layout.exists_of_foreign? m.layout_eq hr hforeign
    have hentry := mem_of_fieldsOf m.fieldsOf_eq ha
    cases List.mem_singleton.1 hentry
    cases hfunction
    rfl
  exact hall.of_mem hc r hr callable h

/-- **What is no type is accepted for its method**, but no token can be read of it. -/
theorem formatting_not_read :
    Built formatting ∧
    formatting.parse (.ofList ["take", "x"]) = .error (.foreign "TypeError"
      "Formatter.parse() missing 1 required positional argument: 'format_string'") ∧
    formatting.parsePath (.ofList ["take", "x"]) =
      .error (.foreign "AttributeError" "type object 'Formatter' has no attribute '__trie__'") := by
  have hseen : formatting.members.map (fun c => (c.name, c.foreign?.isSome, c.plain.isEmpty)) =
      [("take", true, true)] := by decide +kernel
  obtain ⟨c, _, hmembers, hseen, -⟩ := List.map_eq_cons_iff.1 hseen
  obtain ⟨hname, hforeign, hplain⟩ := by simpa only [Prod.mk.injEq] using hseen
  have hmem : c ∈ formatting.members := hmembers ▸ List.mem_cons_self ..
  have hc : formatting.ResolvesTo "take" c := hname ▸ built_formatting.resolvesTo_name hmem
  obtain ⟨callable, hcallable⟩ := Option.isSome_iff_exists.1 hforeign
  obtain ⟨⟨name, attr, isRequired, kind⟩, hr, rfl⟩ := Command.exists_of_foreign? hcallable
  obtain rfl := eq_formatter hmem hr rfl
  obtain ⟨haccept, hleft⟩ := left_of_plain_eq_nil (List.isEmpty_iff.1 hplain) "x" []
  exact ⟨built_formatting, built_formatting.parse_of_foreign hc hr haccept hleft
    (.command rfl rfl), built_formatting.parsePath_of_foreign hc hcallable "x" []⟩

end Sample

end CommandSpec
