import CommandSpec.Proofs.Command.Delegation
import CommandSpec.Proofs.Command.Selection

/-!
# Proofs/Command/Paths — paths and the tokens that spell them

A chain of ids **leads** through a type to a command: the first is the id of one of its commands,
and each other one is that of a command of the subcommand type before it (`CommandType.Reaches`).
Tokens that name the ids one by one are read as that chain (`Built.pathTokens_of_reaches`), and
every path that is read is such a chain (`Built.reaches_of_pathTokens`).  Both go by induction along
the chain; a name wins over the longer names that it begins at every level.
-/

namespace CommandSpec

/-- A token is a name of an id, letter case apart. -/
def CommandId.IsNamedBy (id : CommandId) (token : String) : Prop :=
  ∃ name ∈ id.names, Trie.key name = Trie.key token

instance (id : CommandId) (token : String) : Decidable (id.IsNamedBy token) :=
  inferInstanceAs (Decidable (∃ name ∈ id.names, Trie.key name = Trie.key token))

/-- Without more tokens, a path ends. -/
theorem Command.belowTokens_nil (c : Member)
    (nested : (u : CommandType) → c.subcommands? = some u → TokenReading CommandPath) :
    c.belowTokens nested [] = .ok [] [] := by
  obtain hu | ⟨u, hu⟩ := Option.eq_none_or_eq_some c.subcommands?
  · exact (belowTokens_none_eq_ok_iff hu).2 ⟨rfl, rfl, rfl⟩
  · exact (belowTokens_some_eq_ok_iff hu).2 (.inl ⟨rfl, rfl, rfl⟩)

namespace CommandType

variable {t : CommandType}

/-- **A chain of ids leads through a type to a command.** -/
inductive Reaches : CommandType → List CommandId → Member → Prop
  | last {t : CommandType} {c : Member} (hc : c ∈ t.members) : Reaches t [c.id] c
  | cons {t u : CommandType} {c last : Member} {ids : List CommandId} (hc : c ∈ t.members)
    (hu : c.subcommands? = some u) (below : Reaches u ids last) : Reaches t (c.id :: ids) last

/-- **A path is valid for a type** if its ids lead to a command. -/
def HasPath (t : CommandType) (p : CommandPath) : Prop := ∃ c, t.Reaches p.ids c

/-- Read a path from a stream, without the log. -/
def parsePath (t : CommandType) (tokens : Tokens) : Except Fault CommandPath :=
  match t.readPath ⟨tokens, []⟩ with
  | .ok p _ => .ok p
  | .error e _ => .error e

/-- **A path is parsed from a stream as it is read from the tokens that the stream holds.** -/
theorem parsePath_of_holds (t : CommandType) {tokens : Tokens} {ts : List String}
    (h : tokens.Holds ts) : t.parsePath tokens = TokenReading.outcome (t.pathTokens ts) := by
  have hread := t.follows_readPath ⟨tokens, []⟩ ts h
  rw [parsePath]
  generalize t.readPath ⟨tokens, []⟩ = r, t.pathTokens ts = q at hread
  cases hread <;> rfl

theorem parsePath_ofList (t : CommandType) (ts : List String) :
    t.parsePath (.ofList ts) = TokenReading.outcome (t.pathTokens ts) :=
  t.parsePath_of_holds (Tokens.holds_ofList ts)

theorem parsePath_ofList_eq_ok_iff {ts : List String} {p : CommandPath} :
    t.parsePath (.ofList ts) = .ok p ↔ ∃ ts', t.pathTokens ts = .ok p ts' := by
  rw [parsePath_ofList]
  constructor
  · intro h
    cases hread : t.pathTokens ts with
    | ok q ts' =>
      rw [hread] at h
      exact ⟨ts', by rw [Except.ok.inj h]⟩
    | error e ts' =>
      rw [hread] at h
      cases h
  · rintro ⟨ts', hread⟩
    rw [hread]
    rfl

/-! ## Names -/

/-- **The names of an id are those of its command.** -/
theorem Built.names_id (ht : Built t) : ∀ c ∈ t.members, c.id.names = c.names := by
  refine ht.of_mem fun m => ?_
  have hcanonical := m.canonical_mem
  rw [CommandId.names, Command.names, Making.command, Usage.canonical]
  dsimp only
  cases hids : m.docs.usage.ids with
  | nil => rw [hids] at hcanonical; cases hcanonical
  | cons id ids => rfl

/-- **A name of the id of a command resolves to it**, whatever longer names it begins. -/
theorem Built.resolvesTo_of_named (ht : Built t) {c : Member} (hc : c ∈ t.members)
    {token : String} (h : c.id.IsNamedBy token) : t.ResolvesTo token c := by
  have hwhole : c.IsNamedBy token := by
    rwa [CommandId.IsNamedBy, ht.names_id c hc] at h
  obtain ⟨i, rfl⟩ := List.mem_iff_get.1 hc
  exact ⟨i, ht.isNamed.resolve_of_selects ⟨hc, .inl hwhole⟩, rfl⟩

/-! ## From chains to tokens and back -/

theorem Reaches.ids_ne_nil {ids : List CommandId} {c : Member} (h : t.Reaches ids c) :
    ids ≠ [] := by
  cases h <;> exact List.cons_ne_nil _ _

/-- Without a token there is no path. -/
theorem pathTokens_nil (t : CommandType) : t.pathTokens [] = .error t.incompletePath [] := by
  rw [pathTokens]
  rfl

/-- A token that names no command ends the path. -/
theorem pathTokens_of_unresolved {token : String} {e : Fault} (hroot : t.isRoot = false)
    (he : t.resolve token = .error e) (ts : List String) :
    t.pathTokens (token :: ts) = .error (.badPathId e) ts := by
  have hnext : TokenReading.next (token :: ts) = .ok (some token) ts := rfl
  rw [pathTokens, bind_of_ok hnext]
  dsimp only
  rw [hroot, he]
  rfl

/-- **A token that names a command is consumed, and what follows is read below it.** -/
theorem Built.pathTokens_cons (ht : Built t) {c : Member} {token : String}
    (h : t.ResolvesTo token c) (ts : List String) :
    t.pathTokens (token :: ts)
      = (CommandPath.mk c.id <$> c.belowTokens fun u _ => u.pathTokens) ts := by
  obtain ⟨i, hi, rfl⟩ := h
  have hask := (ht.isDeclared _ (List.get_mem t.members i)).fault?_eq_none
  have hnext : TokenReading.next (token :: ts) = .ok (some token) ts := rfl
  rw [pathTokens, bind_of_ok hnext]
  dsimp only
  rw [isRoot_of_fin i, hi]
  simp only [TokenReading.ask, hask, map_eq_pure_bind]
  rfl

/-- A single name is the path of its command. -/
theorem Built.pathTokens_singleton (ht : Built t) {c : Member} {token : String}
    (h : t.ResolvesTo token c) : t.pathTokens [token] = .ok ⟨c.id, []⟩ [] :=
  (ht.pathTokens_cons h []).trans (map_of_ok (c.belowTokens_nil _))

/-- **Below a command that delegates**, what follows its name is read as a path of its subcommands,
if anything does. -/
theorem Built.pathTokens_below (ht : Built t) {c : Member} {token : String}
    (h : t.ResolvesTo token c) {u : CommandType} (hu : c.subcommands? = some u) {ts : List String}
    (hne : ts ≠ []) :
    t.pathTokens (token :: ts) = ((fun p => ⟨c.id, p.ids⟩) <$> u.pathTokens) ts := by
  have hbelow :
      (c.belowTokens fun u _ => u.pathTokens) ts = (CommandPath.ids <$> u.pathTokens) ts := by
    obtain ⟨next, ts, rfl⟩ := List.exists_cons_of_ne_nil hne
    rw [Command.belowTokens_of_some hu]
    rfl
  rw [ht.pathTokens_cons h]
  cases hp : u.pathTokens ts with
  | ok p ts' => rw [map_of_ok hp, map_of_ok (hbelow.trans (map_of_ok hp))]
  | error e ts' => rw [map_of_error hp, map_of_error (hbelow.trans (map_of_error hp))]

/-- **Tokens that name the ids of a chain, one by one, are read as the chain.** -/
theorem Built.pathTokens_of_reaches (ht : Built t) {ids : List CommandId} {c : Member}
    (h : t.Reaches ids c) {ts : List String} (hts : List.Forall₂ CommandId.IsNamedBy ids ts) :
    ∃ p, p.ids = ids ∧ t.pathTokens ts = .ok p [] := by
  induction h generalizing ts with
  | @last t c hc =>
    obtain ⟨token, ts, hname, ⟨⟩, rfl⟩ := List.forall₂_cons_left_iff.1 hts
    exact ⟨⟨c.id, []⟩, rfl, ht.pathTokens_singleton (ht.resolvesTo_of_named hc hname)⟩
  | @cons t u c last ids hc hu below ih =>
    obtain ⟨token, ts, hname, hmore, rfl⟩ := List.forall₂_cons_left_iff.1 hts
    obtain ⟨q, rfl, hq⟩ := ih (ht.nested hc (nested?_of_subcommands? hu)) hmore
    have hne : ts ≠ [] := by
      rintro rfl
      cases hmore
    refine ⟨⟨c.id, q.ids⟩, rfl, ?_⟩
    rw [ht.pathTokens_below (ht.resolvesTo_of_named hc hname) hu hne, map_of_ok hq]

/-- **A path that is read leads to a command.** -/
theorem reaches_of_pathTokens {t : CommandType} {ts ts' : List String} {p : CommandPath}
    (h : t.pathTokens ts = .ok p ts') : t.HasPath p := by
  obtain ⟨token, ts₁, i, below, rfl, -, -, -, hbelow, rfl⟩ := pathTokens_eq_ok_iff.1 h
  have hmem : t.members.get i ∈ t.members := List.get_mem t.members i
  obtain hu | ⟨u, hu⟩ := Option.eq_none_or_eq_some (t.members.get i).subcommands?
  · obtain ⟨-, rfl, -⟩ := (Command.belowTokens_none_eq_ok_iff hu).1 hbelow
    exact ⟨_, .last hmem⟩
  · rcases (Command.belowTokens_some_eq_ok_iff hu).1 hbelow with ⟨-, rfl, -⟩ | ⟨-, q, hq, rfl⟩
    · exact ⟨_, .last hmem⟩
    · have : sizeOf u < sizeOf t := sizeOf_nested_lt hmem (nested?_of_subcommands? hu)
      obtain ⟨c, hc⟩ := reaches_of_pathTokens hq
      exact ⟨c, .cons hmem hu hc⟩
termination_by sizeOf t

/-! ## The law -/

/-- A valid path is parsed from tokens that name its ids. -/
theorem Built.parsePath_of_named (ht : Built t) {p : CommandPath} (hp : t.HasPath p)
    {ts : List String} (hts : List.Forall₂ CommandId.IsNamedBy p.ids ts) :
    t.parsePath (.ofList ts) = .ok p := by
  obtain ⟨c, hc⟩ := hp
  obtain ⟨⟨head, below⟩, hids, hread⟩ := ht.pathTokens_of_reaches hc hts
  obtain ⟨rfl, rfl⟩ := List.cons.inj hids
  exact parsePath_ofList_eq_ok_iff.2 ⟨[], hread⟩

/-- Each id is named by its canonical name. -/
theorem forall₂_isNamedBy_names (p : CommandPath) :
    List.Forall₂ CommandId.IsNamedBy p.ids p.names :=
  List.forall₂_map_right_iff.2
    (List.forall₂_same.2 fun id _ => ⟨id.name, List.mem_cons_self .., rfl⟩)

/-- **Paths and their tokens.**  A valid path is parsed from any tokens that name its ids one by
one, be it by their canonical names, by aliases or in other letter cases; and a path that is parsed
is valid, has an id for each token, and is parsed again from its canonical names. -/
theorem parsePath_roundTrip (ht : Built t) :
    (∀ p, t.HasPath p → t.parsePath (.ofList p.names) = .ok p ∧
      ∀ ts, List.Forall₂ CommandId.IsNamedBy p.ids ts → t.parsePath (.ofList ts) = .ok p) ∧
    ∀ ts p, t.parsePath (.ofList ts) = .ok p →
      t.HasPath p ∧ p.ids.length = ts.length ∧ t.parsePath (.ofList p.names) = .ok p := by
  refine ⟨fun p hp => ⟨?_, fun ts hts => ht.parsePath_of_named hp hts⟩, fun ts p hparse => ?_⟩
  · exact ht.parsePath_of_named hp (forall₂_isNamedBy_names p)
  · obtain ⟨ts', hread⟩ := parsePath_ofList_eq_ok_iff.1 hparse
    have hp := reaches_of_pathTokens hread
    have hlength := (pathTokens_names ht hread).2.1
    rw [CommandPath.names, List.length_map] at hlength
    exact ⟨hp, hlength, ht.parsePath_of_named hp (forall₂_isNamedBy_names p)⟩

end CommandType

/-! ## Samples -/

namespace Sample

open CommandType

/-- A command with an alias, and with the commands of a family for subcommands. -/
def dispatch : CommandType :=
  nesting 3 "Dispatch" "`(dispatch|d) [it...]` Dispatch.\n\n# Arguments\nit: Command." runner []

theorem built_dispatch : Built dispatch := built_nesting built_runner

/-- Its only command is followed by the commands of the family in paths. -/
theorem exists_reaches_dispatch {c : Member} (hc : c ∈ runner.members) :
    ∃ id : CommandId, id.names = ["dispatch", "d"] ∧ dispatch.Reaches [id, c.id] c := by
  obtain ⟨d, hresolves, htarget, -⟩ := exists_delegate_nesting built_dispatch
    (show shape dispatch = [("dispatch", true, some ("it", "it", false))] by decide +kernel)
  have hnames : ∀ c ∈ dispatch.members, c.id.names = ["dispatch", "d"] := by decide +kernel
  have hu : d.command.subcommands? = some runner :=
    htarget ▸ Command.subcommands?_of_rest d.rest_eq d.kind_eq
  exact ⟨d.command.id, hnames _ hresolves.mem, .cons hresolves.mem hu (.last hc)⟩

/-- A path of two ids, given their names and tokens that name them. -/
theorem exists_path_dispatch {c : Member} (hc : c ∈ runner.members) {name token : String}
    {aliases : List String} (hnames : c.names = name :: aliases) (htoken : c.IsNamedBy token) :
    ∃ p, p.names = ["dispatch", name] ∧ dispatch.HasPath p ∧
      List.Forall₂ CommandId.IsNamedBy p.ids ["D", token] := by
  obtain ⟨id, hid, hreaches⟩ := exists_reaches_dispatch hc
  have hcid := built_runner.names_id c hc
  refine ⟨⟨id, [c.id]⟩, ?_, ⟨c, hreaches⟩, .cons ⟨"d", by simp [hid], by decide⟩ (.cons ?_ .nil)⟩
  · rw [CommandPath.names, CommandPath.ids, List.map_cons, List.map_singleton,
      (List.cons.inj hid).1, (List.cons.inj (hcid.trans hnames)).1]
  · rwa [CommandId.IsNamedBy, hcid]

/-- `D ALL` spells the path of `dispatch runall`, and `D RUN` that of `dispatch run`, although `RUN`
begins `runall` too. -/
theorem parsePath_roundTrip_dispatch : Built dispatch ∧
    (∃ p, p.names = ["dispatch", "runall"] ∧ dispatch.HasPath p ∧
      dispatch.parsePath (.ofList ["dispatch", "runall"]) = .ok p ∧
      dispatch.parsePath (.ofList ["D", "ALL"]) = .ok p) ∧
    ∃ p, p.names = ["dispatch", "run"] ∧ dispatch.HasPath p ∧
      dispatch.parsePath (.ofList ["D", "RUN"]) = .ok p := by
  have hparse := (parsePath_roundTrip built_dispatch).1
  obtain ⟨r, a, hmembers, -, hr, -, ha⟩ := exists_members_runner
  have hrmem : r ∈ runner.members := hmembers ▸ List.mem_cons_self ..
  have hamem : a ∈ runner.members :=
    hmembers ▸ List.mem_cons_of_mem _ (List.mem_singleton_self a)
  have hall : a.IsNamedBy "ALL" := ⟨"all", by simp [ha], by decide⟩
  have hrun : r.IsNamedBy "RUN" := ⟨"run", by simp [hr], by decide⟩
  obtain ⟨p, hp, hpath, htokens⟩ := exists_path_dispatch hamem ha hall
  obtain ⟨q, hq, hqpath, hqtokens⟩ := exists_path_dispatch hrmem hr hrun
  exact ⟨built_dispatch, ⟨p, hp, hpath, hp ▸ (hparse p hpath).1, (hparse p hpath).2 _ htokens⟩,
    q, hq, hqpath, (hparse q hqpath).2 _ hqtokens⟩

end Sample

end CommandSpec
