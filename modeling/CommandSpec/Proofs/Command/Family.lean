import CommandSpec.Proofs.Command.Paths
import CommandSpec.Proofs.Trie.Membership
import Mathlib.Data.List.Pairwise

/-!
# Proofs/Command/Family — a family has each command that it lists, under names of its own

The declaration of a family **lists** the commands in its body and the further ones, some perhaps
more than once (`Declaration.Lists`).  Its members are these commands, each once, where it is listed
first (`membersOf_eq_distinct`).  No two names of one command have the same key, so the keys of all
names are different unless two members share one (`nodup_keys_iff`).  Then, and only then, the
declaration is refused because of its names.
-/

namespace CommandSpec

open CommandType

/-! ## Each command once -/

namespace Command

/-- The commands among some, each once, in the order of their first appearance. -/
def distinct (cs : List Member) : List Member := cs.eraseDupsBy fun c d => c.id = d.id

theorem distinct_cons (c : Member) (cs : List Member) :
    distinct (c :: cs) = c :: distinct (cs.filter fun d => d.id ≠ c.id) := by
  rw [distinct, List.eraseDupsBy_cons, distinct]
  simp only [decide_eq_false_iff_not]

/-- Lists of commands, a first one taken out of the others at each step. -/
theorem distinct_induction {P : List Member → Prop} (nil : P [])
    (cons : ∀ c cs, P (cs.filter fun d => d.id ≠ c.id) → P (c :: cs)) : ∀ cs, P cs
  | [] => nil
  | c :: cs => cons c cs (distinct_induction nil cons _)
termination_by cs => cs.length
decreasing_by exact Nat.lt_succ_of_le (List.length_filter_le _ cs)

theorem distinct_sublist (cs : List Member) : (distinct cs).Sublist cs := by
  induction cs using distinct_induction with
  | nil => exact List.Sublist.refl []
  | cons c cs ih =>
    rw [distinct_cons]
    exact (ih.trans List.filter_sublist).cons_cons c

/-- No two of them have the same id. -/
theorem pairwise_distinct (cs : List Member) : (distinct cs).Pairwise fun c d => c.id ≠ d.id := by
  induction cs using distinct_induction with
  | nil => exact List.Pairwise.nil
  | cons c cs ih =>
    rw [distinct_cons]
    refine List.pairwise_cons.2 ⟨fun d hd => ?_, ih⟩
    have hfilter := (distinct_sublist _).subset hd
    exact Ne.symm (of_decide_eq_true (List.mem_filter.1 hfilter).2)

/-- Each command that is listed has its id among them. -/
theorem exists_mem_distinct {cs : List Member} {c : Member} (hc : c ∈ cs) :
    ∃ d ∈ distinct cs, d.id = c.id := by
  induction cs using distinct_induction with
  | nil => cases hc
  | cons first cs ih =>
    rw [distinct_cons]
    by_cases hid : first.id = c.id
    · exact ⟨first, List.mem_cons_self, hid⟩
    · have hcs : c ∈ cs := (List.mem_cons.1 hc).resolve_left fun h => hid (congrArg _ h.symm)
      obtain ⟨d, hd, hdc⟩ := ih (List.mem_filter.2 ⟨hcs, decide_eq_true (Ne.symm hid)⟩)
      exact ⟨d, List.mem_cons_of_mem first hd, hdc⟩

/-- Two commands with different ids **collide** if they share a name, letter case apart. -/
def Collide (cs : List Member) : Prop :=
  ∃ c ∈ cs, ∃ d ∈ cs, c.id ≠ d.id ∧
    ∃ n ∈ c.id.names, ∃ m ∈ d.id.names, Trie.key n = Trie.key m

/-- To list a command once more is no collision. -/
theorem collide_distinct_iff {cs : List Member} : Collide (distinct cs) ↔ Collide cs := by
  constructor
  · rintro ⟨c, hc, d, hd, h⟩
    exact ⟨c, (distinct_sublist cs).subset hc, d, (distinct_sublist cs).subset hd, h⟩
  · rintro ⟨c, hc, d, hd, h⟩
    obtain ⟨c', hc', hcid⟩ := exists_mem_distinct hc
    obtain ⟨d', hd', hdid⟩ := exists_mem_distinct hd
    exact ⟨c', hc', d', hd', by rwa [hcid, hdid]⟩

end Command

/-- **A declaration lists commands**: those that its body and the further members have, in their
order.  Its documentation and its name can be told. -/
structure Declaration.Lists (d : Declaration) (cs : List Member) : Prop where
  bases : d.bases = [.root .family]
  types : d.types.filter (fun t => t.kind? = some .command) = cs.map single
  extras : d.extras.findSome? shownUnlessCommand = none
  built : ∀ c ∈ cs, Built (single c)
  documented : ∃ doc, d.docs? "expandtabs" = .ok doc
  named : ∃ name, typeName d [] = .ok name

namespace CommandType

open Command

variable {serial : Nat} {d : Declaration} {cs : List Member}

/-- **The members of a family** are the commands that it lists, each once. -/
theorem membersOf_eq_distinct {type : String} {ts : List CommandType} {found : List Member}
    (hts : ts.filter (fun t => t.kind? = some .command) = cs.map single) :
    membersOf type found ts
      = .ok (found ++ distinct (cs.filter fun c => !found.any (·.id = c.id))) := by
  induction ts generalizing found cs with
  | nil =>
    obtain rfl := List.map_eq_nil_iff.1 hts.symm
    rw [membersOf]
    exact congrArg Except.ok (List.append_nil found).symm
  | cons t ts ih =>
    rw [List.filter_cons] at hts
    unfold membersOf
    by_cases hkind : t.kind? = some .command
    · rw [if_pos (decide_eq_true hkind)] at hts
      obtain ⟨c, cs, rfl, rfl, hrest⟩ := List.map_eq_cons_iff.1 hts.symm
      rw [if_pos hkind]
      dsimp only
      rw [ih hrest.symm]
      by_cases hfound : found.any (·.id = c.id) = true
      · rw [if_pos hfound, List.filter_cons_of_neg (by rw [hfound]; decide)]
      · rw [if_neg hfound, List.filter_cons_of_pos (by rw [Bool.eq_false_iff.2 hfound]; rfl),
          distinct_cons, List.filter_filter, List.append_assoc, List.singleton_append]
        simp only [List.any_append, List.any_cons, List.any_nil, Bool.or_false, Bool.not_or,
          Bool.and_comm, ne_eq, decide_not, eq_comm]
    · rw [if_neg (by rwa [decide_eq_true_eq])] at hts
      rw [if_neg hkind, ih hts]

/-! ## Names -/

/-- The keys of the names of one built command are different. -/
theorem Built.nodup_keys_names {c : Member} (hc : Built (single c)) :
    (c.id.names.map Trie.key).Nodup := by
  have hkeys := hc.isNamed.nodup_keys
  rw [Trie.keys, map_fst_identifiers] at hkeys
  rw [hc.names_id c (List.mem_singleton_self c)]
  rwa [names, members, List.flatMap_singleton] at hkeys

/-- **All names of different commands have different keys** unless two commands collide. -/
theorem nodup_keys_iff {ms : List Member} (hbuilt : ∀ c ∈ ms, Built (single c))
    (hids : ms.Pairwise fun c d => c.id ≠ d.id) :
    ((ms.flatMap (·.id.names)).map Trie.key).Nodup ↔ ¬ Collide ms := by
  rw [List.map_flatMap, List.nodup_flatMap]
  constructor
  · rintro ⟨-, hpairs⟩ ⟨c, hc, d, hd, hne, n, hn, m, hm, hkey⟩
    have : Std.Symm (Function.onFun List.Disjoint fun c : Member => c.id.names.map Trie.key) :=
      ⟨fun _ _ h _ ha hb => h hb ha⟩
    have hdisjoint := hpairs.forall hc hd fun h => hne (congrArg _ h)
    exact hdisjoint (List.mem_map_of_mem hn) (hkey ▸ List.mem_map_of_mem hm)
  · intro hfree
    refine ⟨fun c hc => (hbuilt c hc).nodup_keys_names, hids.imp_of_mem ?_⟩
    intro c d hc hd hne k hkc hkd
    obtain ⟨n, hn, rfl⟩ := List.mem_map.1 hkc
    obtain ⟨m, hm, hkey⟩ := List.mem_map.1 hkd
    exact hfree ⟨c, hc, d, hd, hne, n, hn, m, hm, hkey.symm⟩

/-! ## The law -/

/-- What is left to check of a family that lists commands are its names. -/
theorem declare_of_lists (h : d.Lists cs) (hne : cs ≠ []) (serial : Nat) (log : List Event) :
    ∃ name summary, declare serial d log =
      (checkTrie (family name serial summary (distinct cs) (d.shared .family)) >>= fun _ =>
        Logged.log (.builtSet d.name.short (distinct cs).length) >>= fun _ =>
          pure (family name serial summary (distinct cs) (d.shared .family))) log := by
  obtain ⟨doc, hdoc⟩ := h.documented
  obtain ⟨name, hname⟩ := h.named
  have hmembers : membersOf d.name.short [] d.types = .ok (distinct cs) := by
    rw [membersOf_eq_distinct h.types]
    simp
  have hnonempty : (distinct cs).isEmpty = false := by
    obtain ⟨c, rest, rfl⟩ := List.exists_cons_of_ne_nil hne
    rw [distinct_cons]
    rfl
  refine ⟨name, Docs.setSummary doc, ?_⟩
  rw [declare, h.bases]
  show declareFamily serial d log = _
  rw [declareFamily, h.extras, hmembers, hdoc, hname]
  simp only [Logged.check, pure_bind, hnonempty]
  rfl

/-- The names of a family whose members list their own. -/
theorem names_family {name : TypeName} {summary : Option String} {ms : List Member}
    {shared : List (String × Shared CommandType)} (hbuilt : ∀ c ∈ ms, Built (single c)) :
    (family name serial summary ms shared).names = ms.flatMap (·.id.names) :=
  List.flatMap_congr fun c hc => ((hbuilt c hc).names_id c (List.mem_singleton_self c)).symm

/-- Names with different keys pass the check. -/
theorem checkTrie_of_nodup {t : CommandType} (h : (Trie.keys t.identifiers).Nodup)
    (log : List Event) : ∃ log', checkTrie t log = .ok () log' := by
  rw [checkTrie, Trie.ofList?_eq_ok_iff.2 ⟨h, rfl⟩]
  exact ⟨_, rfl⟩

/-- Others are refused. -/
theorem checkTrie_of_repeated {t : CommandType} (h : ¬(Trie.keys t.identifiers).Nodup)
    (log : List Event) : ∃ name, checkTrie t log = .error (.duplicateIdentifier name) log := by
  obtain ⟨name, hname⟩ := Trie.exists_duplicate_iff.2 h
  rw [checkTrie, hname]
  exact ⟨name, rfl⟩

/-- The names of a declared type can be told if its body has no entry for them. -/
theorem namesFault?_of_declare {t : CommandType} {log log' : List Event}
    (h : declare serial d log = .ok t log') (hbody : d.body.lookup "names" = none) :
    t.namesFault? = none := by
  rw [namesFault?, instead?, shared_of_declare h, Option.map_eq_none_iff]
  exact Declaration.lookup_shared_eq_none hbody (by decide) _

/-- **A family is made of the commands that it lists unless two of them collide**: then it is
refused because of their names.  Otherwise each is a member where it is listed first; the names,
the ids and the usages in the topic are those of the members, in their order; and no two names have
the same key.  Where the body has no entry for the names, they can be told. -/
theorem declare_lists (hd : d.Lists cs) (hne : cs ≠ []) (serial : Nat) (log : List Event) :
    ((∃ name log', declare serial d log = .error (.duplicateIdentifier name) log') ↔ Collide cs) ∧
    (¬ Collide cs → ∃ t log', declare serial d log = .ok t log' ∧
      t.members = distinct cs ∧
      t.trie.names = t.members.flatMap (·.id.names) ∧
      t.ids = t.members.map (·.id) ∧
      (∃ summary, t.topic? = some (.family summary (t.members.map (·.docs.usage)))) ∧
      (t.trie.names.map Trie.key).Nodup ∧
      (d.body.lookup "names" = none → t.namesFault? = none)) := by
  obtain ⟨name, summary, heq⟩ := declare_of_lists hd hne serial log
  have hbuilt : ∀ c ∈ distinct cs, Built (single c) := fun c hc =>
    hd.built c ((distinct_sublist cs).subset hc)
  set t := family name serial summary (distinct cs) (d.shared .family) with ht
  have hkeys : (Trie.keys t.identifiers).Nodup ↔ ¬ Collide cs := by
    rw [Trie.keys, map_fst_identifiers, names_family hbuilt,
      nodup_keys_iff hbuilt (pairwise_distinct cs), collide_distinct_iff]
  by_cases hcollide : Collide cs
  · obtain ⟨repeated, herror⟩ := checkTrie_of_repeated (by rwa [hkeys, not_not]) log
    exact ⟨iff_of_true ⟨repeated, log, heq.trans (bind_of_error herror)⟩ hcollide,
      fun hfree => absurd hcollide hfree⟩
  · obtain ⟨log', hok⟩ := checkTrie_of_nodup (hkeys.2 hcollide) log
    have hdeclare := heq.trans (bind_of_ok hok)
    refine ⟨iff_of_false ?_ hcollide, fun _ => ⟨t, _, hdeclare, rfl, ?_, rfl, ?_, ?_, ?_⟩⟩
    · rintro ⟨_, _, h⟩
      rw [hdeclare] at h
      cases h
    · exact (map_fst_identifiers t).trans (names_family hbuilt)
    · exact ⟨summary.map .plain, rfl⟩
    · exact hkeys.2 hcollide
    · exact namesFault?_of_declare hdeclare

end CommandType

/-! ## Samples -/

namespace Sample

open Command
open Tinygit (declared declaration textField)

/-- A class of any name, for a command with the name `ALL`. -/
def all (short : String) : CommandType :=
  declared 3 (declaration .command short (some "`ALL` All.") [] false)

/-- A command with a field in the place of its kind. -/
def finder : CommandType :=
  declared 4 (declaration .command "Find"
    (some "`find <__kind__>` Find.\n\n# Arguments\n__kind__: Kind.") [textField "__kind__"] false)

/-- The declaration of a family with some commands in its body, and further ones. -/
def offering (body : List (String × BodyEntry)) (extras : List Extra) : Declaration :=
  { declaration .family "Runner" none body false with extras }

/-- What is seen of a type: the names of its commands, and the kind that it is taken for. -/
def seen (t : CommandType) : List (List String) × Option Kind :=
  (t.members.map (·.id.names), t.kind?)

/-- The classes that are taken for commands, and the one that is not. -/
theorem seen_commands : seen run = ([["run"]], some .command) ∧
    seen runAll = ([["runall", "all"]], some .command) ∧
    (∀ short ∈ ["All", "__doc__", "__qualname__", "__classcell__"],
      seen (all short) = ([["ALL"]], some .command)) ∧
    seen finder = ([["find"]], none) := by
  decide +kernel

/-- A type that holds one command, seen by the names of its id. -/
def Holds (t : CommandType) (c : Member) (names : List String) : Prop :=
  t = single c ∧ Built (single c) ∧ c.id.names = names

theorem exists_holds {serial : Nat} {name : String} {doc : Option String}
    {body : List (String × BodyEntry)} {names : List String} {kind : Option Kind}
    (hbuilt : Built (declared serial (declaration .command name doc body false)))
    (hseen : seen (declared serial (declaration .command name doc body false))
      = ([names], kind)) :
    ∃ c, Holds (declared serial (declaration .command name doc body false)) c names := by
  obtain ⟨hnames, -⟩ := Prod.mk.inj hseen
  obtain ⟨log, h⟩ | h := Tinygit.declared_cases serial (declaration .command name doc body false)
  · have hcommand : declareCommand serial (declaration .command name doc body false) []
        = .ok (declared serial (declaration .command name doc body false)) log := h
    obtain ⟨c, hc, -⟩ := of_declareCommand hcommand
    rw [hc] at hbuilt hnames
    exact ⟨c, hc, hbuilt, (List.cons.inj hnames).1⟩
  · rw [h] at hnames
    cases hnames

theorem built_of_nil {serial : Nat} {name : String} {doc : Option String} :
    Built (declared serial (declaration .command name doc [] false)) :=
  Tinygit.built_declared fun _ hu => nomatch hu

theorem exists_holds_run : ∃ c, Holds run c ["run"] := exists_holds built_of_nil seen_commands.1

theorem exists_holds_runAll : ∃ c, Holds runAll c ["runall", "all"] :=
  exists_holds built_of_nil seen_commands.2.1

theorem exists_holds_all : ∀ short ∈ ["All", "__doc__", "__qualname__", "__classcell__"],
    ∃ c, Holds (all short) c ["ALL"] :=
  fun short hshort => exists_holds built_of_nil (seen_commands.2.2.1 short hshort)

theorem exists_holds_finder : ∃ c, Holds finder c ["find"] :=
  exists_holds (Tinygit.built_declared fun _ hu => nomatch hu) seen_commands.2.2.2

/-- Commands of different names do not collide. -/
theorem not_collide_pair {t u : CommandType} {c d : Member} {ns ms : List String}
    (hc : Holds t c ns) (hd : Holds u d ms) (hkeys : ((ns ++ ms).map Trie.key).Nodup)
    (hne : ns ≠ ms) : c.id ≠ d.id ∧ ¬ Collide [c, d] := by
  obtain ⟨-, hcbuilt, rfl⟩ := hc
  obtain ⟨-, hdbuilt, rfl⟩ := hd
  have hid : c.id ≠ d.id := fun h => hne (congrArg CommandId.names h)
  refine ⟨hid, (nodup_keys_iff ?_ (List.pairwise_pair.2 hid)).1 ?_⟩
  · exact List.forall_mem_cons.2 ⟨hcbuilt, List.forall_mem_singleton.2 hdbuilt⟩
  · rwa [List.flatMap_cons, List.flatMap_singleton]

theorem kind?_run : run.kind? = some .command := (Prod.mk.inj seen_commands.1).2

theorem kind?_runAll : runAll.kind? = some .command := (Prod.mk.inj seen_commands.2.1).2

/-- `run`, `runall`, and `run` once more. -/
def listing : Declaration :=
  offering [("Run", .member run), ("RunAll", .member runAll)] [.type run]

/-- `runall`, and `ALL` in a class of any name. -/
def colliding (short : String) : Declaration :=
  offering [("RunAll", .member runAll), (short, .member (all short))] []

theorem lists_listing {r a : Member} (hr : Holds run r ["run"])
    (ha : Holds runAll a ["runall", "all"]) : listing.Lists [r, a, r] where
  bases := rfl
  types := by
    have hall : listing.types.filter (fun t => t.kind? = some .command) = [run, runAll, run] :=
      List.filter_eq_self.2 fun t ht => decide_eq_true <| by
        have ht : t ∈ [run, runAll, run] := ht
        simp only [List.mem_cons, List.not_mem_nil, or_false] at ht
        obtain rfl | rfl | rfl := ht
        exacts [kind?_run, kind?_runAll, kind?_run]
    rw [hall, hr.1, ha.1]
    rfl
  extras := by simp [listing, offering, shownUnlessCommand, kind?_run]
  built := by
    simp only [List.mem_cons, List.not_mem_nil, or_false]
    rintro c (rfl | rfl | rfl)
    exacts [hr.2.1, ha.2.1, hr.2.1]
  documented := ⟨none, rfl⟩
  named := ⟨_, rfl⟩

theorem lists_colliding {a b : Member} (ha : Holds runAll a ["runall", "all"])
    (hb : Holds (all "All") b ["ALL"]) : (colliding "All").Lists [a, b] where
  bases := rfl
  types := by
    have hall : (colliding "All").types.filter (fun t => t.kind? = some .command)
        = [runAll, all "All"] := List.filter_eq_self.2 fun t ht => decide_eq_true <| by
      obtain rfl | rfl := List.mem_pair.1 (show t ∈ [runAll, all "All"] from ht)
      exacts [kind?_runAll, (Prod.mk.inj (seen_commands.2.2.1 "All" (List.mem_cons_self ..))).2]
    rw [hall, ha.1, hb.1]
    rfl
  extras := rfl
  built := List.forall_mem_cons.2 ⟨ha.2.1, List.forall_mem_singleton.2 hb.2.1⟩
  documented := ⟨none, rfl⟩
  named := ⟨_, rfl⟩

/-- `ALL` is `all`. -/
theorem collide_all {a b : Member} (ha : Holds runAll a ["runall", "all"]) {short : String}
    (hb : Holds (all short) b ["ALL"]) : Collide [a, b] := by
  refine ⟨a, List.mem_cons_self, b, List.mem_cons_of_mem a (List.mem_singleton_self b), ?_,
    "all", ?_, "ALL", ?_, by decide⟩
  · intro hid
    have hnames := congrArg CommandId.names hid
    rw [ha.2.2, hb.2.2] at hnames
    exact absurd hnames (by decide)
  · rw [ha.2.2]
    decide
  · rw [hb.2.2]
    decide

/-- A family of `run`, `runall` and once more `run` has both, each once; one of `runall` and `ALL`
is refused, since `runall` goes by `all` too. -/
theorem declare_lists_runner :
    ∃ r a b, listing.Lists [r, a, r] ∧ (colliding "All").Lists [a, b] ∧
      (∃ t log, declare 5 listing [] = .ok t log ∧ t.members = [r, a] ∧
        t.trie.names = ["run", "runall", "all"] ∧ t.namesFault? = none) ∧
      ∃ name log, declare 5 (colliding "All") [] = .error (.duplicateIdentifier name) log := by
  obtain ⟨r, hr⟩ := exists_holds_run
  obtain ⟨a, ha⟩ := exists_holds_runAll
  obtain ⟨b, hb⟩ := exists_holds_all "All" (by decide)
  obtain ⟨hid, hfree⟩ := not_collide_pair hr ha (by decide) (by decide)
  have hdistinct : distinct [r, a, r] = [r, a] := by
    rw [distinct_cons, List.filter_cons_of_pos (by simpa using hid.symm),
      List.filter_cons_of_neg (by simp), List.filter_nil, distinct_cons]
    rfl
  refine ⟨r, a, b, lists_listing hr ha, lists_colliding ha hb, ?_, ?_⟩
  · obtain ⟨t, log, ht, hmembers, hnames, -, -, -, hfault⟩ :=
      (declare_lists (lists_listing hr ha) (List.cons_ne_nil r _) 5 []).2
        fun hcollide => hfree (hdistinct ▸ collide_distinct_iff.2 hcollide)
    refine ⟨t, log, ht, hmembers.trans hdistinct, ?_, hfault (by decide)⟩
    rw [hnames, hmembers, hdistinct, List.flatMap_cons, List.flatMap_singleton, hr.2.2, ha.2.2]
    rfl
  · exact (declare_lists (lists_colliding ha hb) (List.cons_ne_nil a _) 5 []).1.2
      (collide_all ha hb)

/-! A class in the body has the place of what bears its name, which can break the law. -/

/-- What is seen of a declaration: the kind of its fault, or else of its type whether the names can
be told, and how many members it has. -/
def seenDeclared (d : Declaration) : Except String (Bool × Nat) :=
  match declare 5 d [] with
  | .ok t _ => .ok (t.namesFault?.isNone, t.members.length)
  | .error e _ => .error e.kind

theorem exists_of_seenDeclared_error {d : Declaration} {kind : String}
    (h : seenDeclared d = .error kind) :
    ∃ e log, declare 5 d [] = .error e log ∧ e.kind = kind := by
  unfold seenDeclared at h
  cases hd : declare 5 d [] with
  | ok t log =>
    rw [hd] at h
    cases h
  | error e log =>
    rw [hd] at h
    exact ⟨e, log, rfl, Except.error.inj h⟩

theorem exists_of_seenDeclared_ok {d : Declaration} {told : Bool} {count : Nat}
    (h : seenDeclared d = .ok (told, count)) :
    ∃ t log, declare 5 d [] = .ok t log ∧ t.namesFault?.isNone = told ∧
      t.members.length = count := by
  unfold seenDeclared at h
  cases hd : declare 5 d [] with
  | ok t log =>
    rw [hd] at h
    exact ⟨t, log, rfl, Prod.mk.inj (Except.ok.inj h)⟩
  | error e log =>
    rw [hd] at h
    cases h

/-- A family with a member that has the name of the method that tells the names. -/
def unnamed : Declaration := offering [("names", .member run)] []

/-- A family with a command that has a field in the place of its kind. -/
def unseen : Declaration := offering [("Run", .member run), ("Find", .member finder)] []

/-- A class in the place of the documentation, of the qualified name or of the cell ends the
declaration before the names are looked at; the other two families are declared. -/
theorem seenDeclared_families : seenDeclared (colliding "__doc__") = .error "AttributeError" ∧
    seenDeclared (colliding "__qualname__") = .error "TypeError" ∧
    seenDeclared (colliding "__classcell__") = .error "TypeError" ∧
    seenDeclared unnamed = .ok (false, 1) ∧ seenDeclared unseen = .ok (true, 1) := by
  decide +kernel

theorem seenDeclared_colliding : ∀ short ∈ ["__doc__", "__qualname__", "__classcell__"],
    ∃ kind, seenDeclared (colliding short) = .error kind ∧ kind ≠ "DuplicateIdentifierError" := by
  intro short hshort
  obtain ⟨hdoc, hqualname, hcell, -⟩ := seenDeclared_families
  simp only [List.mem_cons, List.not_mem_nil, or_false] at hshort
  rcases hshort with rfl | rfl | rfl
  · exact ⟨_, hdoc, by decide⟩
  · exact ⟨_, hqualname, by decide⟩
  · exact ⟨_, hcell, by decide⟩

/-- The names of the two classes collide, and their declaration ends in another fault. -/
def MissesCollision (short : String) : Prop :=
  ∃ a b, Holds runAll a ["runall", "all"] ∧ Holds (all short) b ["ALL"] ∧
    (colliding short).types = [single a, single b] ∧ Collide [a, b] ∧
    ∃ e log, declare 5 (colliding short) [] = .error e log ∧
      e.kind ≠ "DuplicateIdentifierError"

/-- **A collision can be missed**: where one of the classes has the place of the documentation, of
the qualified name or of the cell, the declaration ends before the names are looked at. -/
theorem missesCollision : ∀ short ∈ ["__doc__", "__qualname__", "__classcell__"],
    MissesCollision short := by
  intro short hshort
  obtain ⟨a, ha⟩ := exists_holds_runAll
  obtain ⟨b, hb⟩ := exists_holds_all short (List.mem_cons_of_mem _ hshort)
  obtain ⟨kind, hkind, hne⟩ := seenDeclared_colliding short hshort
  obtain ⟨e, log, he, rfl⟩ := exists_of_seenDeclared_error hkind
  exact ⟨a, b, ha, hb, by rw [← ha.1, ← hb.1]; rfl, collide_all ha hb, e, log, he, hne⟩

/-- The collision of a class in the place of the documentation is missed. -/
theorem declare_misses_collision : MissesCollision "__doc__" :=
  missesCollision "__doc__" (List.mem_cons_self ..)

/-- A class with the name of the method that tells the names is called in the place of it. -/
theorem declare_hides_names :
    ∃ t log, declare 5 unnamed [] = .ok t log ∧ t.namesFault? ≠ none := by
  obtain ⟨-, -, -, hunnamed, -⟩ := seenDeclared_families
  obtain ⟨t, log, ht, htold, -⟩ := exists_of_seenDeclared_ok hunnamed
  exact ⟨t, log, ht, Option.isNone_eq_false_iff.1 htold |> Option.isSome_iff_ne_none.1⟩

/-- A command with a field in the place of its kind is left out. -/
theorem declare_leaves_out : ∃ r f, Holds run r ["run"] ∧ Holds finder f ["find"] ∧
    ¬ Collide [r, f] ∧ unseen.types = [single r, single f] ∧
    ∃ t log, declare 5 unseen [] = .ok t log ∧ t.members.length = 1 := by
  obtain ⟨r, hr⟩ := exists_holds_run
  obtain ⟨f, hf⟩ := exists_holds_finder
  obtain ⟨-, -, -, -, hunseen⟩ := seenDeclared_families
  obtain ⟨t, log, ht, -, hcount⟩ := exists_of_seenDeclared_ok hunseen
  exact ⟨r, f, hr, hf, (not_collide_pair hr hf (by decide) (by decide)).2,
    by rw [← hr.1, ← hf.1]; rfl, t, log, ht, hcount⟩

end Sample

end CommandSpec
