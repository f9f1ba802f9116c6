import CommandSpec.Proofs.Command.Declared
import CommandSpec.Proofs.Tinygit

/-!
# Proofs/Command/Selection — a family reads what its members read

A token **selects** a command of a type if it is one of its names, or if it begins names of this
command alone and no name of the type is whole (`Selects`).  What is read then is what the command
reads by itself (`parse_of_selects`), although its own trie knows fewer names.  Otherwise the token
begins no name, or it is ambiguous.
-/

namespace CommandSpec

/-! ## Selection -/

/-- A token is a name of a command, letter case apart. -/
def Command.IsNamedBy (c : Member) (token : String) : Prop :=
  ∃ name ∈ c.names, Trie.key name = Trie.key token

/-- A token begins a name of a command, letter case apart. -/
def Command.IsBegunBy (c : Member) (token : String) : Prop :=
  ∃ name ∈ c.names, Trie.key token <+: Trie.key name

instance (c : Member) (token : String) : Decidable (c.IsNamedBy token) :=
  inferInstanceAs (Decidable (∃ name ∈ c.names, Trie.key name = Trie.key token))

instance (c : Member) (token : String) : Decidable (c.IsBegunBy token) :=
  inferInstanceAs (Decidable (∃ name ∈ c.names, Trie.key token <+: Trie.key name))

/-- **A token selects a command of a type.**  A whole name wins over the longer names that it
begins. -/
def CommandType.Selects (t : CommandType) (token : String) (c : Member) : Prop :=
  c ∈ t.members ∧ (c.IsNamedBy token ∨
    c.IsBegunBy token ∧ ∀ d ∈ t.members, ¬ d.IsNamedBy token ∧ (d.IsBegunBy token → d = c))

namespace CommandType

variable {t : CommandType} {token : String}

theorem mem_identifiers_iff {i : Fin t.members.length} {name : String} :
    (name, i) ∈ t.identifiers ↔ name ∈ (t.members.get i).names := by
  refine ⟨fun h => ?_, mem_identifiers⟩
  obtain ⟨j, -, hj⟩ := List.mem_flatMap.1 h
  obtain ⟨name', hname, heq⟩ := List.mem_map.1 hj
  obtain ⟨rfl, rfl⟩ := Prod.mk.inj heq
  exact hname

theorem map_fst_identifiers (t : CommandType) : t.identifiers.map (·.1) = t.names := by
  rw [identifiers, List.map_flatMap, names]
  conv_rhs => rw [← List.map_get_finRange t.members, List.flatMap_map]
  exact List.flatMap_congr fun i _ => by simp [Function.comp_def]

/-- The names that a token begins, in the order of their declaration. -/
theorem map_fst_extensions (t : CommandType) (token : String) :
    (Trie.extensions t.identifiers token).map (·.1)
      = t.names.filter fun name => (Trie.key token).isPrefixOf (Trie.key name) := by
  rw [← map_fst_identifiers, List.filter_map]
  rfl

/-- No name is whole where no command has it. -/
theorem key_ne_of_not_named (h : ∀ c ∈ t.members, ¬ c.IsNamedBy token) :
    ∀ e ∈ t.identifiers, Trie.key e.1 ≠ Trie.key token := fun ⟨name, i⟩ he hk =>
  h _ (List.get_mem t.members i) ⟨name, mem_identifiers_iff.1 he, hk⟩

theorem mem_extensions_iff {i : Fin t.members.length} {name : String} :
    (name, i) ∈ Trie.extensions t.identifiers token ↔
      name ∈ (t.members.get i).names ∧ Trie.key token <+: Trie.key name := by
  rw [Trie.extensions, List.mem_filter, mem_identifiers_iff, List.isPrefixOf_iff_prefix]

/-- **Different commands of a type have different ids**, because they have different names. -/
theorem IsNamed.eq_of_id_eq (h : t.IsNamed) {i j : Fin t.members.length}
    (hid : (t.members.get i).id = (t.members.get j).id) : i = j := by
  have hname : (t.members.get i).name = (t.members.get j).name := congrArg CommandId.name hid
  have hmem : ∀ k, ((t.members.get k).name, k) ∈ t.identifiers := fun k =>
    mem_identifiers (h.canonical_mem _ (List.get_mem t.members k))
  have hkeys := h.nodup_keys
  rw [Trie.keys, List.map_map] at hkeys
  exact congrArg Prod.snd
    (List.inj_on_of_nodup_map hkeys (hmem i) (hmem j) (congrArg Trie.key hname))

theorem IsNamed.eq_of_get_eq (h : t.IsNamed) {i j : Fin t.members.length}
    (hc : t.members.get i = t.members.get j) : i = j := h.eq_of_id_eq (congrArg Command.id hc)

/-! ## What a token resolves to -/

theorem IsNamed.resolve_eq (h : t.IsNamed) (token : String) :
    t.resolve token = Trie.flatLookup t.identifiers Trie.sharedPayload? token :=
  Trie.lookup_ofList h.nodup_keys Trie.sharedPayload?

/-- **A token that selects a command resolves to it.** -/
theorem IsNamed.resolve_of_selects (h : t.IsNamed) {i : Fin t.members.length}
    (hsel : t.Selects token (t.members.get i)) : t.resolve token = .ok i := by
  obtain ⟨-, ⟨name, hname, hk⟩ | ⟨⟨name, hname, hprefix⟩, hothers⟩⟩ := hsel
  · exact Trie.lookup_of_key_eq h.nodup_keys (mem_identifiers hname) hk Trie.sharedPayload?
  · rw [h.resolve_eq]
    refine Trie.flatLookup_of_forall_eq (key_ne_of_not_named fun d hd => (hothers d hd).1) ?_ ?_
    · exact List.ne_nil_of_mem (mem_extensions_iff.2 ⟨hname, hprefix⟩)
    · rintro ⟨name', j⟩ he
      obtain ⟨hname', hprefix'⟩ := mem_extensions_iff.1 he
      exact h.eq_of_get_eq ((hothers _ (List.get_mem t.members j)).2 ⟨name', hname', hprefix'⟩)

/-- **At most one command is selected.** -/
theorem IsNamed.selects_unique (h : t.IsNamed) {c d : Member} (hc : t.Selects token c)
    (hd : t.Selects token d) : c = d := by
  obtain ⟨i, rfl⟩ := List.mem_iff_get.1 hc.1
  obtain ⟨j, rfl⟩ := List.mem_iff_get.1 hd.1
  obtain rfl : i = j :=
    Except.ok.inj ((h.resolve_of_selects hc).symm.trans (h.resolve_of_selects hd))
  rfl

/-- A token that begins no name resolves to nothing. -/
theorem IsNamed.resolve_of_not_begun (h : t.IsNamed)
    (hnone : ∀ c ∈ t.members, ¬ c.IsBegunBy token) :
    t.resolve token = .error (.noMatch token (t.names.map .text)) := by
  have hnil : Trie.extensions t.identifiers token = [] := by
    refine List.eq_nil_iff_forall_not_mem.2 fun ⟨name, i⟩ he => ?_
    exact hnone _ (List.get_mem t.members i) ⟨name, mem_extensions_iff.1 he⟩
  rw [h.resolve_eq, Trie.flatLookup_of_nil hnil, ← map_fst_identifiers, List.map_map]
  rfl

/-- A token that begins names of different commands, and is none, is ambiguous. -/
theorem IsNamed.resolve_of_different (h : t.IsNamed)
    (hnone : ∀ c ∈ t.members, ¬ c.IsNamedBy token) {c d : Member} (hc : c ∈ t.members)
    (hd : d ∈ t.members) (hne : c ≠ d) (hcb : c.IsBegunBy token) (hdb : d.IsBegunBy token) :
    t.resolve token = .error (.ambiguousId
      (t.names.filter fun name => (Trie.key token).isPrefixOf (Trie.key name)) token) := by
  obtain ⟨i, rfl⟩ := List.mem_iff_get.1 hc
  obtain ⟨j, rfl⟩ := List.mem_iff_get.1 hd
  obtain ⟨name, hname⟩ := hcb
  obtain ⟨name', hname'⟩ := hdb
  rw [h.resolve_eq, ← map_fst_extensions]
  exact Trie.flatLookup_of_ne (key_ne_of_not_named hnone) (mem_extensions_iff.2 hname)
    (mem_extensions_iff.2 hname') fun hij => hne (congrArg t.members.get hij)

/-! ## The command by itself -/

/-- What selects a command among others selects it where it is alone. -/
theorem Selects.single {c : Member} (h : t.Selects token c) : (single c).Selects token c := by
  obtain ⟨hc, hnamed | ⟨hbegun, hothers⟩⟩ := h
  · exact ⟨List.mem_singleton_self c, .inl hnamed⟩
  · refine ⟨List.mem_singleton_self c, .inr ⟨hbegun, fun d hd => ?_⟩⟩
    obtain rfl := List.mem_singleton.1 hd
    exact ⟨(hothers d hc).1, fun _ => rfl⟩

/-- A token that selects a command is consumed, and the fields of the command are read. -/
theorem Built.readTokens_of_selects (ht : Built t) {c : Member} (hsel : t.Selects token c)
    (ts : List String) :
    t.readTokens (token :: ts) = c.fieldTokens (fun u _ => u.readTokens) ts := by
  obtain ⟨i, rfl⟩ := List.mem_iff_get.1 hsel.1
  exact ht.readTokens_cons (ht.isNamed.resolve_of_selects hsel) ts

/-- **What a type reads after a token that selects a command is what the command reads by
itself.** -/
theorem Built.parse_of_selects (ht : Built t) {c : Member} (hsel : t.Selects token c)
    (ts : List String) :
    t.parse (.ofList (token :: ts)) = (single c).parse (.ofList (token :: ts)) := by
  rw [parse_ofList, parse_ofList, ht.readTokens_of_selects hsel,
    (ht.single_of_mem c hsel.1).readTokens_of_selects hsel.single]

/-- A value of one of its commands is a value of a type. -/
theorem hasInstance_of_mem {c : Member} (hc : c ∈ t.members) (fields : List (String × Value)) :
    t.hasInstance (.command c.id fields) = true := by
  have hid : t.ids.contains c.id = true :=
    List.contains_iff_mem.2 (List.mem_map_of_mem (f := Command.id) hc)
  cases t with
  | root kind => cases hc
  | single d => exact hid
  | family name serial summary members shared => exact hid

/-- A value that is read after such a token is one of the command, and so one of the type, if no
other type makes the values of the command. -/
theorem Built.hasInstance_of_selects (ht : Built t) {c : Member} (hsel : t.Selects token c)
    (hmakes : c.MakesOwn) {ts : List String} {v : Value}
    (hv : t.parse (.ofList (token :: ts)) = .ok v) :
    t.hasInstance v = true ∧ ∃ fields, v = .command c.id fields := by
  obtain ⟨ts', hread⟩ := parse_ofList_eq_ok_iff.1 hv
  rw [ht.readTokens_of_selects hsel] at hread
  obtain ⟨required, _, optional, _, rest, -, -, -, hmake⟩ := Command.fieldTokens_eq_ok_iff.1 hread
  obtain rfl := Command.eq_of_make hmakes hmake
  exact ⟨hasInstance_of_mem hsel.1 _, _, rfl⟩

/-! ## The law -/

/-- **What a family reads after a token is what one of its members reads by itself.** -/
structure IsReadBy (t : CommandType) (token : String) (ts : List String) (c : Member) : Prop where
  selects : t.Selects token c
  unique : ∀ d, t.Selects token d → d = c
  parse_eq : t.parse (.ofList (token :: ts)) = (single c).parse (.ofList (token :: ts))
  /-- A value that the member makes by itself is one of the family, and has the id of the member. -/
  of_value : c.MakesOwn → ∀ v, t.parse (.ofList (token :: ts)) = .ok v →
    t.hasInstance v = true ∧ ∃ fields, v = .command c.id fields

theorem Built.isReadBy_of_selects (ht : Built t) {c : Member} (hsel : t.Selects token c)
    (ts : List String) : t.IsReadBy token ts c where
  selects := hsel
  unique _ hd := ht.isNamed.selects_unique hd hsel
  parse_eq := ht.parse_of_selects hsel ts
  of_value hmakes _ hv := ht.hasInstance_of_selects hsel hmakes hv

/-- Where a token begins names, without being one, it selects the only command that has any of
them, or begins names of commands with different ids. -/
theorem IsNamed.selects_or_different (h : t.IsNamed)
    (hnone : ∀ c ∈ t.members, ¬ c.IsNamedBy token) {c : Member} (hc : c ∈ t.members)
    (hbegun : c.IsBegunBy token) :
    t.Selects token c ∨ ∃ d ∈ t.members, c.id ≠ d.id ∧ d.IsBegunBy token := by
  by_cases hother : ∃ d ∈ t.members, d.IsBegunBy token ∧ d ≠ c
  · obtain ⟨d, hd, hdb, hne⟩ := hother
    obtain ⟨i, rfl⟩ := List.mem_iff_get.1 hc
    obtain ⟨j, rfl⟩ := List.mem_iff_get.1 hd
    exact .inr ⟨_, hd, fun hid => hne (congrArg t.members.get (h.eq_of_id_eq hid).symm), hdb⟩
  · refine .inl ⟨hc, .inr ⟨hbegun, fun d hd => ⟨hnone d hd, fun hdb => ?_⟩⟩⟩
    exact of_not_not fun hne => hother ⟨d, hd, hdb, hne⟩

/-- **A family agrees with its members.**  A token begins no name of it; or it is no name but begins
names of different members; or it selects exactly one member, and what is read then is what the
member reads by itself: a value of the family, unless another type makes the values of the member.
A member is selected by each of its names, letter case apart, and two families that share a member
read it alike. -/
theorem parse_agrees_with_members (ht : Built t) (hroot : t.isRoot = false) (token : String)
    (ts : List String) :
    (((∀ c ∈ t.members, ¬ c.IsBegunBy token) ∧
        t.parse (.ofList (token :: ts)) = .error (.badId (.noMatch token (t.names.map .text)))) ∨
      ((∀ c ∈ t.members, ¬ c.IsNamedBy token) ∧
        (∃ c ∈ t.members, ∃ d ∈ t.members, c.id ≠ d.id ∧ c.IsBegunBy token ∧ d.IsBegunBy token) ∧
        t.parse (.ofList (token :: ts)) = .error (.badId (.ambiguousId
          (t.names.filter fun name => (Trie.key token).isPrefixOf (Trie.key name)) token))) ∨
      ∃ c, t.IsReadBy token ts c) ∧
    (∀ c ∈ t.members, c.IsNamedBy token → t.Selects token c) ∧
    ∀ u c, Built u → t.Selects token c → u.Selects token c →
      t.parse (.ofList (token :: ts)) = u.parse (.ofList (token :: ts)) := by
  have hunresolved : ∀ {e : Fault}, t.resolve token = .error e →
      t.parse (.ofList (token :: ts)) = .error (.badId e) := fun he => by
    rw [parse_ofList, readTokens_of_unresolved hroot he]
    rfl
  refine ⟨?_, fun c hc hwhole => ⟨hc, .inl hwhole⟩, fun u c hu hc hc' => ?_⟩
  · by_cases hwhole : ∃ c ∈ t.members, c.IsNamedBy token
    · obtain ⟨c, hc, hwhole⟩ := hwhole
      exact .inr (.inr ⟨c, ht.isReadBy_of_selects ⟨hc, .inl hwhole⟩ ts⟩)
    replace hwhole : ∀ c ∈ t.members, ¬ c.IsNamedBy token := fun c hc h => hwhole ⟨c, hc, h⟩
    by_cases hbegun : ∃ c ∈ t.members, c.IsBegunBy token
    · obtain ⟨c, hc, hbegun⟩ := hbegun
      rcases ht.isNamed.selects_or_different hwhole hc hbegun with hsel | ⟨d, hd, hid, hdb⟩
      · exact .inr (.inr ⟨c, ht.isReadBy_of_selects hsel ts⟩)
      · have hne : c ≠ d := fun h => hid (congrArg Command.id h)
        exact .inr (.inl ⟨hwhole, ⟨c, hc, d, hd, hid, hbegun, hdb⟩,
          hunresolved (ht.isNamed.resolve_of_different hwhole hc hd hne hbegun hdb)⟩)
    · replace hbegun : ∀ c ∈ t.members, ¬ c.IsBegunBy token := fun c hc h => hbegun ⟨c, hc, h⟩
      exact .inl ⟨hbegun, hunresolved (ht.isNamed.resolve_of_not_begun hbegun)⟩
  · rw [ht.parse_of_selects hc ts, hu.parse_of_selects hc' ts]

end CommandType

/-! ## Samples -/

namespace Sample

open CommandType
open Tinygit (declared declaration textField)

/-- A command without fields, whose name begins a name of another one. -/
def run : CommandType := declared 0 (declaration .command "Run" (some "`run` Run.") [] false)

/-- A command with two names. -/
def runAll : CommandType :=
  declared 1 (declaration .command "RunAll" (some "`(runall|all)` Run all.") [] false)

/-- A family of both. -/
def runner : CommandType :=
  declared 2 { declaration .family "Runner" none [("Run", .member run)] false with
    extras := [.type runAll] }

theorem built_runner : Built runner := by
  refine Tinygit.built_declared fun u hu => ?_
  rcases List.mem_pair.1 hu with rfl | rfl
  all_goals
    refine Tinygit.built_declared fun u hu => ?_
    cases hu

/-- The family has one command of each name. -/
theorem exists_members_runner : ∃ c d, runner.members = [c, d] ∧ c.name = "run" ∧
    c.names = ["run"] ∧ d.name = "runall" ∧ d.names = ["runall", "all"] := by
  have hmap : runner.members.map (fun c => (c.name, c.names))
      = [("run", ["run"]), ("runall", ["runall", "all"])] := by decide +kernel
  obtain ⟨c, more, hmembers, hc, hmore⟩ := List.map_eq_cons_iff.1 hmap
  obtain ⟨d, more, rfl, hd, hnil⟩ := List.map_eq_cons_iff.1 hmore
  obtain rfl := List.map_eq_nil_iff.1 hnil
  obtain ⟨hcname, hcnames⟩ := Prod.mk.inj hc
  obtain ⟨hdname, hdnames⟩ := Prod.mk.inj hd
  exact ⟨c, d, hmembers, hcname, hcnames, hdname, hdnames⟩

/-- `RUN` is a whole name and begins another one, and `ru` begins both: the first is read by the
command of that name, and the second is ambiguous. -/
theorem parse_agrees_with_members_runner : Built runner ∧ runner.isRoot = false ∧
    (∃ c ∈ runner.members, c.name = "run" ∧
      (∃ d ∈ runner.members, c.id ≠ d.id ∧ d.IsBegunBy "RUN") ∧
      runner.parse (.ofList ["RUN"]) = (single c).parse (.ofList ["RUN"])) ∧
    runner.parse (.ofList ["ru"]) = .error (.badId (.ambiguousId ["run", "runall"] "ru")) := by
  obtain ⟨c, d, hmembers, hcname, hcnames, hdname, hdnames⟩ := exists_members_runner
  have hroot : runner.isRoot = false := by decide +kernel
  have hnames : runner.names = ["run", "runall", "all"] := by decide +kernel
  have hc : c ∈ runner.members := hmembers ▸ List.mem_cons_self ..
  have hd : d ∈ runner.members := hmembers ▸ List.mem_cons_of_mem _ (List.mem_singleton_self d)
  have hid : c.id ≠ d.id := fun h => by
    have hname : c.name = d.name := congrArg CommandId.name h
    rw [hcname, hdname] at hname
    exact absurd hname (by decide)
  have hwhole : c.IsNamedBy "RUN" := ⟨"run", by simp [hcnames], by decide⟩
  have hcbegun : c.IsBegunBy "ru" := ⟨"run", by simp [hcnames], by decide⟩
  have hdbegun : ∀ token ∈ ["RUN", "ru"], d.IsBegunBy token := fun token htoken =>
    ⟨"runall", by simp [hdnames], by revert token; decide⟩
  refine ⟨built_runner, hroot, ⟨c, hc, hcname, ⟨d, hd, hid, hdbegun _ (by decide)⟩, ?_⟩, ?_⟩
  · obtain ⟨-, hselects, hshared⟩ := parse_agrees_with_members built_runner hroot "RUN" []
    have hsel := hselects c hc hwhole
    exact hshared (single c) c (built_runner.single_of_mem c hc) hsel hsel.single
  · rcases (parse_agrees_with_members built_runner hroot "ru" []).1 with
      ⟨hnone, -⟩ | ⟨-, -, h⟩ | ⟨e, he⟩
    · exact absurd hcbegun (hnone c hc)
    · rw [h, hnames]
      rfl
    · obtain ⟨hemem, hewhole | ⟨-, hothers⟩⟩ := he.selects
      · have hnotNamed : ∀ name ∈ runner.names, Trie.key name ≠ Trie.key "ru" := by
          rw [hnames]
          decide
        obtain ⟨name, hname, hk⟩ := hewhole
        exact absurd hk (hnotNamed name (List.mem_flatMap.2 ⟨e, hemem, hname⟩))
      · have hce : c = e := (hothers c hc).2 hcbegun
        have hde : d = e := (hothers d hd).2 (hdbegun _ (by decide))
        exact absurd (congrArg Command.id (hce.trans hde.symm)) hid

/-- A command whose values can be made of anything. -/
def made : CommandType :=
  declared 0 (declaration .command "Made"
    (some "`made <it>` Made.\n\n# Arguments\nit: Anything.") [textField "it"] false)

/-- A command whose body holds another one for what makes its values. -/
def remade : CommandType :=
  declared 1 (declaration .command "Run" (some "`run` Run.")
    [(Command.makerName, .member made)] false)

/-- A family of this command. -/
def remades : CommandType :=
  declared 2 (declaration .family "Runner" none [("Run", .member remade)] false)

theorem built_remades : Built remades := by
  refine Tinygit.built_declared fun u hu => ?_
  obtain rfl := List.mem_singleton.1 hu
  refine Tinygit.built_declared fun u hu => ?_
  obtain rfl := List.mem_singleton.1 hu
  refine Tinygit.built_declared fun u hu => ?_
  cases hu

/-- **A value that another type makes is none of the family**, although the token selects the member
that is read. -/
theorem parse_remades : Built remades ∧ ∃ c v, remades.Selects "run" c ∧
    remades.parse (.ofList ["run"]) = .ok v ∧ remades.hasInstance v = false ∧
    ∀ fields, v ≠ .command c.id fields := by
  obtain ⟨c, more, hmembers, hnames, -⟩ := List.map_eq_cons_iff.1
    (show remades.members.map (·.names) = [["run"]] by decide +kernel)
  have hmem : c ∈ remades.members := hmembers ▸ List.mem_cons_self ..
  have hparse :
      (remades.parse (.ofList ["run"])).toOption.map remades.hasInstance = some false := by
    decide +kernel
  obtain ⟨v, hv, hinstance⟩ := Option.map_eq_some_iff.1 hparse
  have hsel : remades.Selects "run" c :=
    ⟨hmem, .inl ⟨"run", hnames ▸ List.mem_singleton_self "run", rfl⟩⟩
  refine ⟨built_remades, c, v, hsel, except_toOption_eq_some_iff.1 hv, hinstance, ?_⟩
  rintro fields rfl
  rw [hasInstance_of_mem hmem] at hinstance
  cases hinstance

end Sample

end CommandSpec
