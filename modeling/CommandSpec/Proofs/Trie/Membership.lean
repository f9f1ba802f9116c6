import CommandSpec.Proofs.Trie.Tree

/-!
# Proofs/Trie/Membership — which tries are made, and which names they have

The keys of names are inserted one after the other, and the first that is in the tree already is
reported.  Since the tree holds just the keys inserted so far (`here?_insert_eq_none_iff`), this is
the first name whose key repeats that of an earlier one (`duplicateFrom?_eq_some_iff`), whatever
longer and shorter keys share its branches.  A trie that is made has all its entries, and for its
names exactly the inputs that have the key of an entry (`contains_ofList`).
-/

namespace CommandSpec

/-- After an insertion, a key is free if it is another one and was free before. -/
theorem Branches.here?_insert_eq_none_iff {place : Nat} {b : Branches} {key k : List Char} :
    ((b.insert place key).descend k).here? = none ↔ k ≠ key ∧ (b.descend k).here? = none := by
  rw [here?_descend_insert]
  by_cases hk : k = key
  · rw [if_pos hk]
    exact iff_of_false (Option.some_ne_none _) fun h => h.1 hk
  · rw [if_neg hk]
    exact ⟨fun h => ⟨hk, h⟩, fun h => h.2⟩

namespace Trie

variable {α : Type}

/-! ## The first repetition -/

/-- **The first entry whose key repeats that of an earlier one** has a name: the keys of the entries
before it are different, and its own is among them. -/
def FirstRepeat (entries : List (String × α)) (name : String) : Prop :=
  ∃ before e after, entries = before ++ e :: after ∧ e.1 = name ∧ (keys before).Nodup ∧
    key name ∈ keys before

/-- The first of some names whose key is taken, before or by a name in front of it. -/
def FirstTaken (taken : List Char → Prop) (names : List String) (name : String) : Prop :=
  ∃ before after, names = before ++ name :: after ∧ (before.map key).Nodup ∧
    (∀ n ∈ before, ¬ taken (key n)) ∧ (key name ∈ before.map key ∨ taken (key name))

theorem not_firstTaken_nil {taken : List Char → Prop} {name : String} :
    ¬ FirstTaken taken [] name := by
  rintro ⟨before, after, h, -⟩
  exact List.append_ne_nil_of_right_ne_nil before (List.cons_ne_nil name after) h.symm

theorem firstTaken_cons_of_taken {taken : List Char → Prop} {m name : String} {ms : List String}
    (hm : taken (key m)) : FirstTaken taken (m :: ms) name ↔ m = name := by
  constructor
  · rintro ⟨_ | ⟨m', before⟩, after, h, -, hfree, -⟩
    · exact (List.cons.inj h).1
    · obtain ⟨rfl, -⟩ := List.cons.inj h
      exact absurd hm (hfree m List.mem_cons_self)
  · rintro rfl
    exact ⟨[], ms, rfl, List.nodup_nil, fun _ hn => absurd hn List.not_mem_nil, .inr hm⟩

/-- A name whose key is free takes it from those behind. -/
theorem firstTaken_cons_of_free {taken : List Char → Prop} {m name : String} {ms : List String}
    (hm : ¬ taken (key m)) :
    FirstTaken taken (m :: ms) name ↔ FirstTaken (fun k => k = key m ∨ taken k) ms name := by
  constructor
  · rintro ⟨_ | ⟨m', before⟩, after, h, hnodup, hfree, hname⟩
    · obtain ⟨rfl, rfl⟩ := List.cons.inj h
      exact absurd (hname.resolve_left List.not_mem_nil) hm
    · obtain ⟨rfl, rfl⟩ := List.cons.inj h
      obtain ⟨hnotin, hnodup⟩ := List.nodup_cons.1 hnodup
      refine ⟨before, after, rfl, hnodup, fun n hn => ?_, ?_⟩
      · rintro (hkey | htaken)
        · exact hnotin (hkey ▸ List.mem_map_of_mem hn)
        · exact hfree n (List.mem_cons_of_mem m hn) htaken
      · rw [List.map_cons, List.mem_cons] at hname
        rcases hname with (hkey | hmem) | htaken
        · exact .inr (.inl hkey)
        · exact .inl hmem
        · exact .inr (.inr htaken)
  · rintro ⟨before, after, rfl, hnodup, hfree, hname⟩
    refine ⟨m :: before, after, rfl, ?_, ?_, ?_⟩
    · refine List.nodup_cons.2 ⟨fun hmem => ?_, hnodup⟩
      obtain ⟨n, hn, hkey⟩ := List.mem_map.1 hmem
      exact hfree n hn (.inl hkey)
    · exact List.forall_mem_cons.2 ⟨hm, fun n hn htaken => hfree n hn (.inr htaken)⟩
    · rw [List.map_cons, List.mem_cons]
      rcases hname with hmem | hkey | htaken
      · exact .inl (.inr hmem)
      · exact .inl (.inl hkey)
      · exact .inr htaken

/-- **The name that is reported** is the first whose key is taken, in the tree or by a name in front
of it. -/
theorem duplicateFrom?_eq_some_iff {names : List String} {place : Nat} {tree : Branches}
    {name : String} :
    duplicateFrom? place tree names = some name ↔
      FirstTaken (fun k => (tree.descend k).here? ≠ none) names name := by
  induction names generalizing place tree with
  | nil => exact iff_of_false (Option.some_ne_none name).symm not_firstTaken_nil
  | cons m ms ih =>
    rw [duplicateFrom?]
    by_cases hfree : (tree.descend (key m)).here? = none
    · rw [if_neg (by rw [hfree]; exact Bool.false_ne_true), ih,
        firstTaken_cons_of_free (not_not_intro hfree)]
      simp only [ne_eq, Branches.here?_insert_eq_none_iff, not_and_or, not_not]
    · rw [if_pos (Option.isSome_iff_ne_none.2 hfree), Option.some_inj,
        firstTaken_cons_of_taken hfree]

/-- **The first repetition is what is reported of entries.** -/
theorem ofList?_eq_error_iff {entries : List (String × α)} {e : Fault} :
    ofList? entries = .error e ↔
      ∃ name, FirstRepeat entries name ∧ .duplicateIdentifier name = e := by
  have hfirst : ∀ name, duplicateFrom? 0 .nil (entries.map (·.1)) = some name ↔
      FirstRepeat entries name := fun name => by
    rw [duplicateFrom?_eq_some_iff, FirstTaken]
    simp only [Branches.nil_descend, Branches.here?_nil, ne_eq, not_true_eq_false,
      not_false_eq_true, or_false, implies_true, true_and]
    constructor
    · rintro ⟨before, after, h, hnodup, hmem⟩
      obtain ⟨bs, rest, rfl, rfl, hrest⟩ := List.map_eq_append_iff.1 h
      obtain ⟨x, xs, rfl, hx, -⟩ := List.map_eq_cons_iff.1 hrest
      exact ⟨bs, x, xs, rfl, hx, hnodup, hmem⟩
    · rintro ⟨before, x, after, rfl, rfl, hnodup, hmem⟩
      refine ⟨before.map Prod.fst, after.map Prod.fst, ?_, hnodup, hmem⟩
      rw [List.map_append, List.map_cons]
  rw [ofList?]
  simp only [← hfirst]
  cases duplicateFrom? 0 .nil (entries.map (·.1)) with
  | none => simp
  | some name => simp

/-- **A repetition is reported unless all keys differ.** -/
theorem exists_duplicate_iff {entries : List (String × α)} :
    (∃ name, ofList? entries = .error (.duplicateIdentifier name)) ↔ ¬(keys entries).Nodup := by
  constructor
  · rintro ⟨name, h⟩ hd
    rw [ofList?_eq_ok_iff.2 ⟨hd, rfl⟩] at h
    cases h
  · intro hd
    cases h : ofList? entries with
    | ok t => exact absurd (ofList?_eq_ok_iff.1 h).1 hd
    | error e =>
      obtain ⟨name, -, rfl⟩ := ofList?_eq_error_iff.1 h
      exact ⟨name, rfl⟩

/-! ## Membership -/

/-- **A trie has the names that share a key with one of its entries**, and neither the beginnings
nor the continuations of these. -/
theorem contains_ofList {entries : List (String × α)} (hd : (keys entries).Nodup) (x : String) :
    (ofList entries).contains x = true ↔ ∃ e ∈ entries, key e.1 = key x := by
  rw [contains, Option.isSome_iff_exists]
  constructor
  · rintro ⟨i, hi⟩
    obtain ⟨e, he, hkey⟩ := (here?_descend_root hd).1 hi
    exact ⟨e, List.mem_of_getElem? he, hkey⟩
  · rintro ⟨e, he, hkey⟩
    obtain ⟨i, hi⟩ := List.mem_iff_getElem?.1 he
    exact ⟨i, (here?_descend_root hd).2 ⟨e, hi, hkey⟩⟩

/-- Keys differ unless two entries at different places have the same. -/
theorem not_nodup_keys_iff {entries : List (String × α)} :
    ¬(keys entries).Nodup ↔
      ∃ i j : Fin entries.length, i < j ∧ key entries[i].1 = key entries[j].1 := by
  rw [keys, List.map_map, List.Nodup, List.pairwise_map, List.pairwise_iff_getElem]
  push Not
  constructor
  · rintro ⟨i, j, hi, hj, hlt, h⟩
    exact ⟨⟨i, hi⟩, ⟨j, hj⟩, hlt, h⟩
  · rintro ⟨i, j, hlt, h⟩
    exact ⟨i, j, i.isLt, j.isLt, hlt, h⟩

/-! ## The law -/

/-- **A trie is made unless two names differ in letter case at most.**  If they do, the name that is
reported is the first that repeats an earlier one.  Otherwise the trie has the entries in their
order, and the inputs that it contains are those whose lower case is that of a name. -/
theorem ofList?_membership (entries : List (String × α)) :
    ((∃ name, ofList? entries = .error (.duplicateIdentifier name)) ↔
      ∃ i j : Fin entries.length, i < j ∧ key entries[i].1 = key entries[j].1) ∧
    (∀ e, ofList? entries = .error e ↔
      ∃ name, FirstRepeat entries name ∧ .duplicateIdentifier name = e) ∧
    ∀ t, ofList? entries = .ok t →
      t.names = entries.map (·.1) ∧ t.entries = entries ∧ t.entries.length = entries.length ∧
        ∀ x, t.contains x = true ↔ ∃ e ∈ entries, key e.1 = key x := by
  refine ⟨?_, fun e => ofList?_eq_error_iff, fun t h => ?_⟩
  · rw [← not_nodup_keys_iff]
    exact exists_duplicate_iff
  · obtain ⟨hd, rfl⟩ := ofList?_eq_ok_iff.1 h
    exact ⟨rfl, rfl, rfl, contains_ofList hd⟩

/-- `RUN` is in a trie with `run` and `RunAll`, and `RunA` is not; a third name `runALL` is one too
many, and the first. -/
theorem ofList?_membership_runAll :
    (∃ t, ofList? [("RunAll", 1), ("run", 2)] = .ok t ∧ t.names = ["RunAll", "run"] ∧
      t.contains "RUN" = true ∧ ¬t.contains "RunA" = true) ∧
    ofList? [("RunAll", 1), ("run", 2), ("runALL", 3), ("RUN", 4)]
      = .error (.duplicateIdentifier "runALL") := by
  constructor
  · obtain ⟨hnames, -, -, hcontains⟩ :=
      (ofList?_membership [("RunAll", 1), ("run", 2)]).2.2 _ rfl
    refine ⟨_, rfl, hnames, (hcontains "RUN").2 (by decide), fun h => ?_⟩
    exact absurd ((hcontains "RunA").1 h) (by decide)
  · refine ((ofList?_membership _).2.1 _).2 ⟨"runALL", ?_, rfl⟩
    exact ⟨[("RunAll", 1), ("run", 2)], ("runALL", 3), [("RUN", 4)], rfl, rfl, by decide, by decide⟩

end Trie

end CommandSpec
