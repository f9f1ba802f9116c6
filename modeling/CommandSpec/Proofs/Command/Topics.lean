import CommandSpec.Proofs.Command.Failures

/-!
# Proofs/Command/Topics — which paths help finds a topic for

A path is made id by id, and only the head is checked when it is made: it has to delegate
(`CommandPath.Made`).  Help checks the rest.  The ids either lead through the type to a command, or
they stray from it at one of them (`CommandType.reaches_or_strays`): there is an id that is none of
the type that the ids before it lead to (`CommandType.StraysAt`).  Help gives the topic of the
command, or names the id and the type.  Tokens that are parsed as a path never stray.
-/

namespace CommandSpec

/-- **A path that can be made** of ids: each is put in front of the path that follows it. -/
inductive CommandPath.Made : CommandPath → Prop
  | intro {head : CommandId} {rest : Option CommandPath} {p : CommandPath}
    (hrest : ∀ q, rest = some q → Made q) (h : CommandPath.of? head rest = .ok p) : Made p

theorem CommandPath.made_ofId (id : CommandId) : (ofId id).Made :=
  @Made.intro id none _ nofun rfl

/-- Every id of a path that another one follows delegates. -/
theorem CommandPath.Made.delegates {p : CommandPath} (h : p.Made) :
    ∀ id ∈ p.ids.dropLast, id.delegates = true := by
  induction h with
  | @intro head rest p hrest h ih =>
    cases rest with
    | none =>
      obtain rfl := Except.ok.inj h
      exact fun _ hid => nomatch hid
    | some q =>
      rw [CommandPath.of?] at h
      split at h
      · next hdelegates =>
        obtain rfl := Except.ok.inj h
        show ∀ id ∈ (head :: q.ids).dropLast, id.delegates = true
        rw [List.dropLast_cons_of_ne_nil (show q.ids ≠ [] from List.cons_ne_nil _ _),
          List.forall_mem_cons]
        exact ⟨hdelegates, ih q rfl⟩
      · cases h

namespace CommandType

variable {t : CommandType}

/-! ## Leading and straying -/

/-- **Ids stray from a type at one of them**: the ids before it lead to a type, and it is the id of
none of the commands of this type. -/
inductive StraysAt : CommandType → List CommandId → CommandId → CommandType → Prop
  | here {t : CommandType} {id : CommandId} {ids : List CommandId}
    (h : ∀ c ∈ t.members, c.id ≠ id) : StraysAt t (id :: ids) id t
  | further {t u w : CommandType} {c : Member} {ids : List CommandId} {id : CommandId}
    (hc : c ∈ t.members) (hu : c.subcommands? = some u) (below : StraysAt u ids id w) :
    StraysAt t (c.id :: ids) id w

theorem StraysAt.ids_ne_nil {u : CommandType} {ids : List CommandId} {id : CommandId}
    (h : t.StraysAt ids id u) : ids ≠ [] := by
  cases h <;> exact List.cons_ne_nil _ _

/-- Two commands of a type with one id are the same. -/
theorem Built.eq_of_id_eq (ht : Built t) {c d : Member} (hc : c ∈ t.members) (hd : d ∈ t.members)
    (h : c.id = d.id) : c = d := by
  have hfound := ht.memberWithId_eq hc
  rw [h, ht.memberWithId_eq hd] at hfound
  exact (Except.ok.inj hfound).symm

/-- The first id of a chain is that of a command of the type, and the others lead on below it. -/
theorem reaches_cons_iff {id : CommandId} {ids : List CommandId} {last : Member} :
    t.Reaches (id :: ids) last ↔ ∃ c ∈ t.members, c.id = id ∧
      (ids = [] ∧ c = last ∨ ∃ u, c.subcommands? = some u ∧ u.Reaches ids last) := by
  constructor
  · intro h
    generalize hids : id :: ids = chain at h
    cases h with
    | last hc =>
      obtain ⟨rfl, rfl⟩ := List.cons.inj hids
      exact ⟨last, hc, rfl, .inl ⟨rfl, rfl⟩⟩
    | @cons _ u c _ _ hc hu below =>
      obtain ⟨rfl, rfl⟩ := List.cons.inj hids
      exact ⟨c, hc, rfl, .inr ⟨u, hu, below⟩⟩
  · rintro ⟨c, hc, rfl, ⟨rfl, rfl⟩ | ⟨u, hu, below⟩⟩
    · exact .last hc
    · exact .cons hc hu below

/-- **Ids that stray lead to no command.** -/
theorem Built.not_reaches_of_strays (ht : Built t) {u : CommandType} {ids : List CommandId}
    {id : CommandId} (h : t.StraysAt ids id u) (last : Member) : ¬ t.Reaches ids last := by
  induction h with
  | here h =>
    intro hreaches
    obtain ⟨c, hc, hid, -⟩ := reaches_cons_iff.1 hreaches
    exact h c hc hid
  | @further t u w d ids id hd hu below ih =>
    intro hreaches
    obtain ⟨c, hc, hid, ⟨rfl, -⟩ | ⟨u', hu', hbelow⟩⟩ := reaches_cons_iff.1 hreaches
    · exact below.ids_ne_nil rfl
    · obtain rfl := ht.eq_of_id_eq hc hd hid
      obtain rfl := Option.some.inj (hu.symm.trans hu')
      exact ih (ht.nested hd (nested?_of_subcommands? hu)) hbelow

/-- The last id of a chain is that of the command that it leads to. -/
theorem Reaches.getLast? {ids : List CommandId} {c : Member} (h : t.Reaches ids c) :
    ids.getLast? = some c.id := by
  induction h with
  | last => rfl
  | cons _ _ hbelow ih =>
    rw [List.getLast?_cons, ih]
    rfl

/-- **The ids of a path that can be made lead through a type, or stray from it.** -/
theorem Built.reaches_or_strays {t : CommandType} (ht : Built t)
    (hnests : t.Throughout Command.NestsTypes) {ids : List CommandId} (hne : ids ≠ [])
    (hids : ∀ id ∈ ids.dropLast, id.delegates = true) :
    (∃ c, t.Reaches ids c) ∨ ∃ id u, t.StraysAt ids id u := by
  obtain ⟨head, below, rfl⟩ := List.exists_cons_of_ne_nil hne
  by_cases hmember : ∃ c ∈ t.members, c.id = head
  · obtain ⟨c, hc, rfl⟩ := hmember
    cases below with
    | nil => exact .inl ⟨c, .last hc⟩
    | cons next more =>
      rw [List.dropLast_cons_of_ne_nil (List.cons_ne_nil _ _), List.forall_mem_cons] at hids
      obtain ⟨u, hu⟩ := ((ht.delegates_iff c hc).1 hids.1).resolve_right fun ⟨_, hforeign⟩ =>
        nomatch (hnests.of_mem hc).foreign?_eq.symm.trans hforeign
      have hnested := nested?_of_subcommands? hu
      have : sizeOf u < sizeOf t := sizeOf_nested_lt hc hnested
      obtain ⟨d, hd⟩ | ⟨id, w, h⟩ :=
        (ht.nested hc hnested).reaches_or_strays (hnests.nested hc hu) (List.cons_ne_nil next more)
          hids.2
      · exact .inl ⟨d, .cons hc hu hd⟩
      · exact .inr ⟨id, w, .further hc hu h⟩
  · exact .inr ⟨head, t, .here fun c hc heq => hmember ⟨c, hc, heq⟩⟩
termination_by sizeOf t

/-- **A path that leads to a command can be made.** -/
theorem Built.made_of_reaches (ht : Built t) {head : CommandId} {below : List CommandId}
    {last : Member} (h : t.Reaches (head :: below) last) : CommandPath.Made ⟨head, below⟩ := by
  induction below generalizing t head with
  | nil => exact CommandPath.made_ofId head
  | cons next more ih =>
    obtain ⟨c, hc, rfl, ⟨hnil, -⟩ | ⟨u, hu, hbelow⟩⟩ := reaches_cons_iff.1 h
    · cases hnil
    · have hdelegates := (ht.delegates_iff c hc).2 (.inl ⟨u, hu⟩)
      have hmake : CommandPath.of? c.id (some ⟨next, more⟩) = .ok ⟨c.id, next :: more⟩ := by
        rw [CommandPath.of?, if_pos hdelegates]
        rfl
      refine .intro (fun q hq => ?_) hmake
      obtain rfl := Option.some.inj hq
      exact ih (ht.nested hc (nested?_of_subcommands? hu)) hbelow

/-! ## Topics of paths -/

/-- An id that is none of a type is refused. -/
theorem memberWithId_of_not_mem {id : CommandId} (hroot : t.isRoot = false)
    (h : ∀ c ∈ t.members, c.id ≠ id) :
    t.memberWithId id = .error (Misuse.notAMember id.name t.name.qualified).fault := by
  have hfind : t.members.find? (·.id = id) = none :=
    List.find?_eq_none.2 fun c hc => by simpa using h c hc
  rw [memberWithId, hroot, hfind]
  rfl

/-- **Help on ids that stray** names the id, and the type that it is none of. -/
theorem Built.topicFrom_of_strays (ht : Built t) (hroot : t.Rootless) {head : CommandId}
    {below : List CommandId} {id : CommandId} {u : CommandType}
    (h : t.StraysAt (head :: below) id u)
    (hkeeps : t.KeepsAlong "help" (head :: below).dropLast) :
    t.topicFrom head below = .error (Misuse.notAMember id.name u.name.qualified).fault := by
  generalize hids : head :: below = ids at h hkeeps
  induction h generalizing head below with
  | here h =>
    obtain ⟨rfl, rfl⟩ := List.cons.inj hids
    have hnone := memberWithId_of_not_mem hroot.isRoot_eq h
    cases below <;> rw [topicFrom, hnone] <;> rfl
  | @further t u w c ids id hc hu hbelow ih =>
    obtain ⟨rfl, rfl⟩ := List.cons.inj hids
    obtain ⟨next, more, rfl⟩ := List.exists_cons_of_ne_nil hbelow.ids_ne_nil
    rw [List.dropLast_cons_of_ne_nil (List.cons_ne_nil _ _)] at hkeeps
    have hnested := nested?_of_subcommands? hu
    rw [ht.topicFrom_below hc hu (hkeeps.head hc hu)]
    exact ih (ht.nested hc hnested) (hroot.nested hc hnested) rfl (hkeeps.tail hc hu)

/-- The names of the id that a chain ends with are those of its command. -/
theorem Built.names_of_reaches (ht : Built t) {ids : List CommandId} {c : Member}
    (h : t.Reaches ids c) : c.id.names = c.names := by
  induction h with
  | last hc => exact ht.names_id _ hc
  | cons hc hu _ ih => exact ih (ht.nested hc (nested?_of_subcommands? hu))

/-! ## Asking for help -/

section Help

variable (ht : Built t) (hroot : t.Rootless) (hhelp : t.instead? "help" = none)
  {s : Session} {v : Value}
include ht hroot hhelp

/-- **Help on a path** gives the topic of the command that it leads to, or refuses the id at which
it strays. -/
theorem Built.topicFor_path (source : Source) {p : CommandPath} (hv : s.settled v = .path p)
    (huntouched : s.isUntouched p = true) (hp : p.Made)
    (hkeeps : t.KeepsAlong "help" p.ids.dropLast) :
    (∃ c, t.Reaches p.ids c ∧ p.ids.getLast? = some c.id ∧
      Step.topicFor t source v s = .ok ⟨c.id.serial, c.topic⟩ s) ∨
    ¬ t.HasPath p ∧ ∃ m : Misuse, m.kind = "ValueError" ∧
      (∃ id u, t.StraysAt p.ids id u ∧ m = .notAMember id.name u.name.qualified) ∧
      Step.topicFor t source v s = .error (.fault m.fault) s := by
  rw [Step.topicFor_of_path hhelp source hv huntouched, topicOf]
  obtain ⟨c, hc⟩ | ⟨id, u, hstrays⟩ :=
    ht.reaches_or_strays hroot.throughout_nestsTypes (List.cons_ne_nil _ _) hp.delegates
  · rw [ht.topicFrom_of_reaches hc hkeeps]
    exact .inl ⟨c, hc, hc.getLast?, rfl⟩
  · rw [ht.topicFrom_of_strays hroot hstrays hkeeps]
    exact .inr ⟨fun ⟨c, hc⟩ => ht.not_reaches_of_strays hstrays c hc, _, rfl, ⟨id, u, hstrays, rfl⟩,
      rfl⟩

/-- **Help on tokens** gives the topic of the path that they are parsed as, or the fault of parsing
them. -/
theorem Built.exists_topicFor_tokens (hreader : t.instead? "parse_path" = none) {source : Source}
    {ts : List String} (h : s.Gives source v ts) (hnames : ts = [] → t.namesFault? = none)
    (hkeeps : ∀ p, t.parsePath (.ofList ts) = .ok p → t.KeepsAlong "help" p.ids.dropLast) :
    ∃ s', (∃ p c, t.parsePath (.ofList ts) = .ok p ∧ t.Reaches p.ids c ∧
        p.ids.getLast? = some c.id ∧
        (∃ usage desc, c.topic = .command usage desc ∧ usage.ids = c.id.names) ∧
        Step.topicFor t source v s = .ok ⟨c.id.serial, c.topic⟩ s') ∨
      ∃ e, t.parsePath (.ofList ts) = .error e ∧ e.isPathFault = true ∧
        Step.topicFor t source v s = .error (.fault e) s' := by
  obtain ⟨s', hs'⟩ := Step.exists_topicFor_of_gives hhelp hreader h
  refine ⟨s', ?_⟩
  rw [hs']
  obtain ⟨p, hp, c, hc⟩ | ⟨e, he, hfails⟩ := (ht.ends_pathTokens hroot hnames).outcome
  · rw [← parsePath_ofList] at hp
    have htopic : t.parsePath (.ofList ts) >>= t.topicOf = .ok ⟨c.id.serial, c.topic⟩ :=
      except_bind_eq_ok_iff.2 ⟨p, hp, ht.topicFrom_of_reaches hc (hkeeps p hp)⟩
    rw [htopic]
    exact .inl ⟨p, c, hp, hc, hc.getLast?, ⟨_, _, rfl, (ht.names_of_reaches hc).symm⟩, rfl⟩
  · rw [← parsePath_ofList] at he
    rw [he]
    exact .inr ⟨e, rfl, hfails.isPathFault, rfl⟩

end Help

/-- **Help finds the topics of valid paths, and of no others.**  A path that leads through the type
to a command gives the topic of that command; any other is refused, and the id at which it strays is
named.  Tokens give the topic of the path that they are parsed as, or the fault of parsing them, and
an id is the path of it alone. -/
theorem help_finds_topics (ht : Built t) (hroot : t.Rootless) (hhelp : t.instead? "help" = none)
    (s : Session) :
    (∀ source v p, s.settled v = .path p → s.isUntouched p = true → p.Made →
      t.KeepsAlong "help" p.ids.dropLast →
      (∃ c, t.Reaches p.ids c ∧ p.ids.getLast? = some c.id ∧
        Step.topicFor t source v s = .ok ⟨c.id.serial, c.topic⟩ s) ∨
      ¬ t.HasPath p ∧ ∃ m : Misuse, m.kind = "ValueError" ∧
        (∃ id u, t.StraysAt p.ids id u ∧ m = .notAMember id.name u.name.qualified) ∧
        Step.topicFor t source v s = .error (.fault m.fault) s) ∧
    (t.instead? "parse_path" = none → ∀ source v ts, s.Gives source v ts →
      (ts = [] → t.namesFault? = none) →
      (∀ p, t.parsePath (.ofList ts) = .ok p → t.KeepsAlong "help" p.ids.dropLast) →
      ∃ s', (∃ p c, t.parsePath (.ofList ts) = .ok p ∧ t.Reaches p.ids c ∧
          p.ids.getLast? = some c.id ∧
          (∃ usage desc, c.topic = .command usage desc ∧ usage.ids = c.id.names) ∧
          Step.topicFor t source v s = .ok ⟨c.id.serial, c.topic⟩ s') ∨
        ∃ e, t.parsePath (.ofList ts) = .error e ∧ e.isPathFault = true ∧
          Step.topicFor t source v s = .error (.fault e) s') ∧
    ∀ source source' v i, s.settled v = .path (.ofId i) → s.isUntouched (.ofId i) = true →
      Step.topicFor t source (.id i) s = Step.topicFor t source' v s := by
  refine ⟨fun source v p => ht.topicFor_path hroot hhelp source, fun hreader source v ts =>
    ht.exists_topicFor_tokens hroot hhelp hreader, fun source source' v i hv hi => ?_⟩
  rw [Step.topicFor_of_id hhelp source hi, Step.topicFor_of_path hhelp source' hv hi]

end CommandType

/-! ## Samples -/

namespace Sample

open CommandType

/-- The ids of a session in which nothing has been changed are as they were declared. -/
theorem isUntouched_start (p : CommandPath) : Session.start.isUntouched p = true :=
  List.all_eq_true.2 fun _ _ => rfl

/-- `take read` is a path of two commands. -/
theorem exists_path_taking : ∃ p c, taking.parsePath (.ofList ["take", "read"]) = .ok p ∧
    taking.Reaches p.ids c ∧ p.ids.length = 2 := by
  obtain ⟨v, hv, hlength⟩ := exists_parse_taking
  obtain ⟨ts', hread⟩ := parse_ofList_eq_ok_iff.1 hv
  obtain ⟨⟨c, hc⟩, -, p, hp, hpath⟩ :=
    built_taking.path_of_readTokens hread (.of_throughout isUnreplaced_taking _)
  rw [hlength] at hpath
  rw [← hp] at hc hlength
  exact ⟨p, c, parsePath_ofList_eq_ok_iff.2 ⟨[], hpath⟩, hc, hlength⟩

/-- A command of `read` is none of `take`. -/
theorem not_hasPath_taking {c : Member} (hc : c ∈ reader.members) :
    ¬ taking.HasPath (.ofId c.id) := by
  rintro ⟨last, hlast⟩
  obtain ⟨d, hd, hid, -⟩ := reaches_cons_iff.1 hlast
  have htake : ∀ d ∈ taking.members, d.id.name = "take" := by decide +kernel
  have hread : ∀ c ∈ reader.members, c.id.name = "read" := by decide +kernel
  have hname : c.id.name = "take" := (congrArg CommandId.name hid).symm.trans (htake d hd)
  rw [hread c hc] at hname
  exact absurd hname (by decide)

/-- `take read` leads help to a topic, as a path and as tokens; `read` alone is refused, and is the
path of its id. -/
theorem help_finds_topics_taking : Built taking ∧ taking.Rootless ∧
    taking.instead? "help" = none ∧ taking.instead? "parse_path" = none ∧
    (∃ (p : CommandPath) (c : Member), p.Made ∧ taking.KeepsAlong "help" p.ids.dropLast ∧
      taking.Reaches p.ids c ∧
      Step.topicFor taking (.value .null) (.path p) .start = .ok ⟨c.id.serial, c.topic⟩ .start) ∧
    (∃ (p : CommandPath) (c : Member) (s : Session),
      taking.parsePath (.ofList ["take", "read"]) = .ok p ∧ p.ids.length = 2 ∧
      Step.topicFor taking (.value (.texts ["take", "read"]))
        (.plain (.texts ["take", "read"])) .start = .ok ⟨c.id.serial, c.topic⟩ s) ∧
    ∃ id, ¬ taking.HasPath (.ofId id) ∧ (∃ m : Misuse, m.kind = "ValueError" ∧
        Step.topicFor taking (.value .null) (.path (.ofId id)) .start
          = .error (.fault m.fault) .start) ∧
      Step.topicFor taking (.value .null) (.id id) .start =
        Step.topicFor taking (.value .null) (.path (.ofId id)) .start := by
  have hhelp : taking.instead? "help" = none := instead?_nesting (by decide) (by decide)
  have hreader : taking.instead? "parse_path" = none := isOrdinary_taking.readers.parsePath
  have hkeeps (chain : List CommandId) : taking.KeepsAlong "help" chain :=
    .of_throughout keeps_taking chain
  obtain ⟨p, c, hp, hc, hlength⟩ := exists_path_taking
  obtain ⟨r, hr⟩ := List.exists_mem_of_ne_nil _ forall_mem_reader.1
  obtain ⟨hpaths, htokens, hids⟩ := help_finds_topics built_taking rootless_taking hhelp .start
  have hmade := built_taking.made_of_reaches hc
  have hstrays := not_hasPath_taking hr
  refine ⟨built_taking, rootless_taking, hhelp, hreader, ?_, ?_, r.id, hstrays, ?_, ?_⟩
  · obtain ⟨d, hd, -, htopic⟩ := (hpaths (.value .null) (.path p) p rfl (isUntouched_start p) hmade
      (hkeeps _)).resolve_right fun h => h.1 ⟨c, hc⟩
    exact ⟨p, d, hmade, hkeeps _, hd, htopic⟩
  · obtain ⟨s, hs⟩ := htokens hreader _ _ _ (Session.gives_texts .start ["take", "read"])
      (fun h => nomatch h) fun q _ => hkeeps q.ids.dropLast
    obtain ⟨q, d, hq, hd, -, -, htopic⟩ :=
      hs.resolve_right fun ⟨e, he, _⟩ => nomatch hp.symm.trans he
    obtain rfl := Except.ok.inj (hp.symm.trans hq)
    exact ⟨p, d, s, hp, hlength, htopic⟩
  · obtain ⟨-, m, hm, -, htopic⟩ := (hpaths (.value .null) (.path (.ofId r.id)) (.ofId r.id) rfl
      (isUntouched_start _) (CommandPath.made_ofId r.id) (hkeeps _)).resolve_left
        fun ⟨d, hd, _⟩ => hstrays ⟨d, hd⟩
    exact ⟨m, hm, htopic⟩
  · exact hids _ _ _ _ rfl (isUntouched_start _)

/-! A constant in a body stands in the place of what help asks for. -/

/-- The path of three ids leads through `outer` to the leaf, but help stops at its second id. -/
theorem exists_path_outer_help : ∃ p : CommandPath, p.Made ∧ (outer [("help", .int 5)]).HasPath p ∧
    ∀ source, Step.topicFor (outer [("help", .int 5)]) source (.path p) .start =
      .error (.fault (Misuse.notCallable "int").fault) .start := by
  have ht := built_outer [("help", .int 5)]
  obtain ⟨v, hv, hlength, -⟩ := exists_parse_outer_help
  obtain ⟨ts', hread⟩ := parse_ofList_eq_ok_iff.1 hv
  obtain ⟨⟨last, hlast⟩, -, p, hp, -⟩ :=
    ht.path_of_readTokens hread
      (.of_throughout (isUnreplaced_of_isOrdinary isOrdinary_outer_help) _)
  rw [← hp] at hlast hlength
  refine ⟨p, ht.made_of_reaches hlast, ⟨last, hlast⟩, fun source => ?_⟩
  have hbelow : p.below ≠ [] := by
    rintro hnil
    rw [CommandPath.ids, hnil] at hlength
    cases hlength
  obtain ⟨c, hc, hid, ⟨hnil, -⟩ | ⟨u, hu, -⟩⟩ := reaches_cons_iff.1 hlast
  · exact absurd hnil hbelow
  have hconstant : u.instead? "help" = some (.constant (.int 5)) :=
    refersTo_nesting_iff (Tinygit.refersTo_of_mem hc (nested?_of_subcommands? hu)) ▸
      instead?_inner (by decide)
  have hhelp : (outer [("help", .int 5)]).instead? "help" = none :=
    instead?_nesting (by decide) (by decide)
  rw [Step.topicFor_of_path hhelp source rfl (isUntouched_start p), topicOf, ← hid,
    topicFrom_of_constant ht hc hu hconstant hbelow]
  rfl

/-- A constant in the place of help is what is called. -/
theorem topicFor_of_constant {t : CommandType} {x : Datum}
    (h : t.instead? "help" = some (.constant x)) (source : Source) (v : Value) (s : Session) :
    Step.topicFor t source v s = .error (.fault (Misuse.notCallable x.kindName).fault) s := by
  rw [Step.topicFor, Step.get_bind, helpFault?, h]
  rfl

/-- Where a constant stands in the place of the reader of paths, tokens are not parsed. -/
theorem topicFor_inner_parse_path (ts : List String) (s : Session) :
    Step.topicFor (inner [("parse_path", .int 5)]) (.value (.texts ts)) (.plain (.texts ts)) s =
      .error (.fault (Misuse.notCallable "int").fault) s := by
  have hhelp : (inner [("parse_path", .int 5)]).instead? "help" = none :=
    instead?_nesting (by decide) (by decide)
  rw [Step.topicFor_of_gives hhelp (s.gives_texts ts)]
  exact topicOfTokens_of_constant (instead?_inner (by decide)) _ _ s

/-- Where a constant stands in the place of the names, no path ends before its first name. -/
theorem exists_topicFor_inner_names (s : Session) :
    ∃ s', Step.topicFor (inner [("names", .int 5)]) (.value (.texts [])) (.plain (.texts [])) s =
      .error (.fault (Misuse.notCallable "int").fault) s' := by
  have hhelp : (inner [("names", .int 5)]).instead? "help" = none :=
    instead?_nesting (by decide) (by decide)
  have hreader : (inner [("names", .int 5)]).instead? "parse_path" = none :=
    instead?_nesting (by decide) (by decide)
  obtain ⟨s', hs'⟩ := Step.exists_topicFor_of_gives hhelp hreader (s.gives_texts [])
  rw [parsePath_inner_names] at hs'
  exact ⟨s', hs'⟩

/-- **Help misses the topic of a path** where a constant stands in the place of help on the way. -/
theorem help_misses_topic_below : Built (outer [("help", .int 5)]) ∧
    (outer [("help", .int 5)]).Rootless ∧
    ∃ p : CommandPath, p.Made ∧ (outer [("help", .int 5)]).HasPath p ∧
      ∀ source, Step.topicFor (outer [("help", .int 5)]) source (.path p) .start =
        .error (.fault (.foreign "TypeError" "'int' object is not callable")) .start :=
  ⟨built_outer _, rootless_nesting (isRoot_of_shape (shape_outer "help" (by decide)))
    (rootless_inner (by decide)), exists_path_outer_help⟩

/-- Help misses every topic where a constant stands in the place of help itself. -/
theorem help_misses_topic : Built (inner [("help", .int 5)]) ∧
    (inner [("help", .int 5)]).Rootless ∧
    ∀ source v s, Step.topicFor (inner [("help", .int 5)]) source v s =
      .error (.fault (.foreign "TypeError" "'int' object is not callable")) s :=
  ⟨built_nesting built_leaf, rootless_inner (by decide),
    topicFor_of_constant (instead?_inner (by decide))⟩

/-- Help on tokens fails where a constant stands in the place of the reader of paths. -/
theorem help_misses_topic_of_tokens : Built (inner [("parse_path", .int 5)]) ∧
    (inner [("parse_path", .int 5)]).Rootless ∧
    ∀ s, Step.topicFor (inner [("parse_path", .int 5)]) (.value (.texts ["inner", "leaf"]))
      (.plain (.texts ["inner", "leaf"])) s =
        .error (.fault (.foreign "TypeError" "'int' object is not callable")) s :=
  ⟨built_nesting built_leaf, rootless_inner (by decide),
    topicFor_inner_parse_path ["inner", "leaf"]⟩

/-- Help on no tokens fails where a constant stands in the place of the names. -/
theorem help_misses_names : Built (inner [("names", .int 5)]) ∧
    (inner [("names", .int 5)]).Rootless ∧
    ∀ s, ∃ s', Step.topicFor (inner [("names", .int 5)]) (.value (.texts []))
      (.plain (.texts [])) s =
        .error (.fault (.foreign "TypeError" "'int' object is not callable")) s' :=
  ⟨built_nesting built_leaf, rootless_inner (by decide), exists_topicFor_inner_names⟩

end Sample

end CommandSpec
