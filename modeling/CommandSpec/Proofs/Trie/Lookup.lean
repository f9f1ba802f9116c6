import CommandSpec.Proofs.Trie.Tree

/-!
# Proofs/Trie/Lookup — looking a name up without a tree

What an input stands for can be said of the entries alone: an entry whose key is the key of the
input, or else the entries whose keys go on from it, in the order of their declaration
(`flatLookup`).  `lookup_eq_flatLookup` says that the trie finds just that.  The tree hides longer
names behind a whole one from the input that is this name, but not from its beginnings.
-/

namespace CommandSpec.Trie

variable {α : Type}

/-! ## The flat look-up -/

/-- The entries whose keys the key of the input begins, in the order of their declaration. -/
def extensions (entries : List (String × α)) (input : String) : List (String × α) :=
  entries.filter fun e => (key input).isPrefixOf (key e.1)

/-- **What an input stands for among some entries.**  A whole name comes first; several entries
that the input begins are left to `resolve`. -/
def flatLookup (entries : List (String × α)) (resolve : List (String × α) → Option α)
    (input : String) : Except Fault α :=
  match entries.find? fun e => key e.1 = key input with
  | some e => .ok e.2
  | none =>
    match extensions entries input with
    | [] => .error (.noMatch input (entries.map fun e => .text e.1))
    | [e] => .ok e.2
    | several =>
      match resolve several with
      | some payload => .ok payload
      | none => .error (.ambiguousId (several.map (·.1)) input)

/-- The payload that all candidates share, unless it is one that stands for none. -/
def resolveShared [BEq α] (isNone : α → Bool) (candidates : List (String × α)) : Option α :=
  (sharedPayload? candidates).filter fun payload => !isNone payload

/-- Where no payload stands for none, this is the resolver that command types use. -/
theorem resolveShared_false [BEq α] : resolveShared (fun _ : α => false) = sharedPayload? := by
  funext candidates
  cases h : sharedPayload? candidates <;> simp [resolveShared, h]

/-- A look-up that fails names its input, and all names where none of them begins with it. -/
theorem error_of_lookup {t : Trie α} {resolve : List (String × α) → Option α} {input : String}
    {e : Fault} (h : t.lookup resolve input = .error e) :
    e = .noMatch input (t.names.map .text) ∨ ∃ candidates, e = .ambiguousId candidates input := by
  unfold lookup at h
  split at h
  · exact .inl (Except.error.inj h).symm
  · cases h
  · split at h
    · cases h
    · exact .inr ⟨_, (Except.error.inj h).symm⟩

/-! ## Candidates -/

/-- Picking entries by their positions is filtering them, where the positions are those of the
entries with a property. -/
theorem map_filter_zipIdx {β : Type} {p : Nat → Bool} {P : β → Bool} :
    ∀ {xs : List β} {n : Nat}, (∀ i x, xs[i]? = some x → p (n + i) = P x) →
      ((xs.zipIdx n).filter fun e => p e.2).map (·.1) = xs.filter P
  | [], _, _ => rfl
  | x :: xs, n, h => by
    have hx : p n = P x := h 0 x rfl
    have ih : ((xs.zipIdx (n + 1)).filter fun e => p e.2).map (·.1) = xs.filter P :=
      map_filter_zipIdx fun i y hy => by
        rw [show n + 1 + i = n + (i + 1) by omega]
        exact h (i + 1) y hy
    rw [List.zipIdx_cons, List.filter_cons, List.filter_cons, hx]
    split
    · rw [List.map_cons, ih]
    · exact ih

section DifferentKeys

variable {entries : List (String × α)} (hd : (keys entries).Nodup) {input : String}
include hd

/-- **A whole name is its own only candidate**, whatever longer names it begins. -/
theorem candidates_of_key_eq {e : String × α} (he : e ∈ entries) (hk : key e.1 = key input) :
    (ofList entries).candidates input = [e] := by
  obtain ⟨i, hi⟩ := List.mem_iff_getElem?.1 he
  have hplace := (here?_descend_root hd).2 ⟨e, hi, hk⟩
  simp only [candidates, hplace]
  simp [ofList, hi]

/-- **The candidates of any other input are the entries that it begins.** -/
theorem candidates_of_key_ne (hne : ∀ e ∈ entries, key e.1 ≠ key input) :
    (ofList entries).candidates input = extensions entries input := by
  have hplace : ((ofList entries).root.descend (key input)).here? = none := by
    rw [Option.eq_none_iff_forall_ne_some]
    intro i hi
    obtain ⟨e, he, hk⟩ := (here?_descend_root hd).1 hi
    exact hne e (List.mem_of_getElem? he) hk
  simp only [candidates, hplace]
  refine map_filter_zipIdx fun i e he => ?_
  rw [Bool.eq_iff_iff, Nat.zero_add, List.contains_iff_mem, mem_places_descend_root hd,
    List.isPrefixOf_iff_prefix]
  exact ⟨fun ⟨e', he', h⟩ => (Option.some.inj (he.symm.trans he')) ▸ h, fun h => ⟨e, he, h⟩⟩

/-- **A whole name is found**, whatever the resolver. -/
theorem lookup_of_key_eq {e : String × α} (he : e ∈ entries) (hk : key e.1 = key input)
    (resolve : List (String × α) → Option α) :
    (ofList entries).lookup resolve input = .ok e.2 := by
  rw [lookup, candidates_of_key_eq hd he hk]

theorem lookup_ofList (resolve : List (String × α) → Option α) :
    (ofList entries).lookup resolve input = flatLookup entries resolve input := by
  rw [flatLookup]
  cases hf : entries.find? fun e => key e.1 = key input with
  | some e =>
    exact lookup_of_key_eq hd (List.mem_of_find?_eq_some hf)
      (by simpa using List.find?_some hf) resolve
  | none =>
    have hne : ∀ e ∈ entries, key e.1 ≠ key input := by simpa using hf
    rw [lookup, candidates_of_key_ne hd hne]
    rcases extensions entries input with _ | ⟨e, _ | ⟨e', more⟩⟩
    · simp [names, ofList]
    · rfl
    · rfl

end DifferentKeys

/-! ## Payloads

What several entries stand for depends on their payloads alone. -/

section Payloads

variable [BEq α] [LawfulBEq α] {entries : List (String × α)} {input : String}

/-- **Entries of one payload stand for it**, where none of them is whole. -/
theorem flatLookup_of_forall_eq (hne : ∀ e ∈ entries, key e.1 ≠ key input) {payload : α}
    (hfound : extensions entries input ≠ [])
    (hall : ∀ e ∈ extensions entries input, e.2 = payload) :
    flatLookup entries sharedPayload? input = .ok payload := by
  have hf : (entries.find? fun e => key e.1 = key input) = none := by simpa using hne
  rw [flatLookup, hf]
  generalize extensions entries input = found at hfound hall
  obtain _ | ⟨first, _ | ⟨second, more⟩⟩ := found
  · exact absurd rfl hfound
  · exact congrArg Except.ok (hall first (List.mem_cons_self ..))
  · have hfirst := hall first (List.mem_cons_self ..)
    have hshared : sharedPayload? (first :: second :: more) = some payload := by
      rw [sharedPayload?, if_pos, hfirst]
      refine List.all_eq_true.2 fun e he => ?_
      rw [hall e (List.mem_cons_of_mem _ he), hfirst]
      exact beq_self_eq_true payload
    simp only [hshared]

/-- **Entries of different payloads are ambiguous**, where none of them is whole. -/
theorem flatLookup_of_ne (hne : ∀ e ∈ entries, key e.1 ≠ key input) {e e' : String × α}
    (he : e ∈ extensions entries input) (he' : e' ∈ extensions entries input) (h : e.2 ≠ e'.2) :
    flatLookup entries sharedPayload? input
      = .error (.ambiguousId ((extensions entries input).map (·.1)) input) := by
  have hf : (entries.find? fun e => key e.1 = key input) = none := by simpa using hne
  rw [flatLookup, hf]
  generalize extensions entries input = found at he he'
  obtain _ | ⟨first, _ | ⟨second, more⟩⟩ := found
  · cases he
  · rw [List.mem_singleton.1 he, List.mem_singleton.1 he'] at h
    exact absurd rfl h
  · have hshared : sharedPayload? (first :: second :: more) = none := by
      rw [sharedPayload?, if_neg]
      intro hall
      have heq : ∀ x ∈ first :: second :: more, x.2 = first.2 := by
        intro x hx
        rcases List.mem_cons.1 hx with rfl | hx
        · rfl
        · exact eq_of_beq (List.all_eq_true.1 hall x hx)
      exact h ((heq e he).trans (heq e' he').symm)
    simp only [hshared]

omit [LawfulBEq α] in
/-- **An input that begins no entry matches none.** -/
theorem flatLookup_of_nil (h : extensions entries input = []) :
    flatLookup entries sharedPayload? input
      = .error (.noMatch input (entries.map fun e => .text e.1)) := by
  have hf : (entries.find? fun e => key e.1 = key input) = none := by
    refine List.find?_eq_none.2 fun e he hk => ?_
    have hmem : e ∈ extensions entries input :=
      List.mem_filter.2 ⟨he, by rw [of_decide_eq_true hk]; simp⟩
    rw [h] at hmem
    cases hmem
  rw [flatLookup, hf, h]

end Payloads

/-! ## The law -/

/-- Several candidates share the payload of the first exactly when all of them have it. -/
theorem resolveShared_cons [BEq α] (isNone : α → Bool) (first : String × α)
    (more : List (String × α)) :
    resolveShared isNone (first :: more)
      = if (∀ e ∈ more, e.2 == first.2) ∧ isNone first.2 = false then some first.2 else none := by
  rw [resolveShared, sharedPayload?]
  by_cases hall : ∀ e ∈ more, e.2 == first.2
  · rw [if_pos (List.all_eq_true.2 hall)]
    cases hn : isNone first.2 with
    | false => rw [if_pos ⟨hall, rfl⟩, Option.filter_some, hn, if_pos (by rfl)]
    | true => rw [if_neg (by simp), Option.filter_some, hn, if_neg (by decide)]
  · rw [if_neg fun h => hall (List.all_eq_true.1 h), if_neg fun h => hall h.1]
    rfl

/-- **Looking an input up in a trie is looking it up in the flat list of entries**, for every
resolver.  With the resolver that asks for a shared payload, several candidates give the first
payload when all of them have it and it stands for a payload, and are ambiguous otherwise. -/
theorem lookup_eq_flatLookup [BEq α] {entries : List (String × α)} {t : Trie α}
    (h : ofList? entries = .ok t) (input : String) :
    (∀ resolve, t.lookup resolve input = flatLookup entries resolve input) ∧
      ∀ (isNone : α → Bool) (first second : String × α) (more : List (String × α)),
        (∀ e ∈ entries, key e.1 ≠ key input) →
          extensions entries input = first :: second :: more →
            t.lookup (resolveShared isNone) input
              = if (∀ e ∈ second :: more, e.2 == first.2) ∧ isNone first.2 = false then
                  .ok first.2
                else .error (.ambiguousId ((first :: second :: more).map (·.1)) input) := by
  obtain ⟨hd, rfl⟩ := ofList?_eq_ok_iff.1 h
  refine ⟨lookup_ofList hd, fun isNone first second more hne hs => ?_⟩
  have hf : (entries.find? fun e => key e.1 = key input) = none := by simpa using hne
  rw [lookup_ofList hd, flatLookup, hf, hs]
  by_cases hall : (∀ e ∈ second :: more, e.2 == first.2) ∧ isNone first.2 = false
  · simp only [resolveShared_cons, if_pos hall]
  · simp only [resolveShared_cons, if_neg hall]

/-- Three names of two commands, typed in other letter cases: `RU` begins two names with one
payload, and `R` begins a third. -/
theorem lookup_eq_flatLookup_runAll :
    let entries := [("RunAll", 1), ("run", 1), ("Rest", 2)]
    ofList? entries = .ok (ofList entries) ∧
      (ofList entries).lookup (resolveShared fun _ => false) "RU" = .ok 1 ∧
      (ofList entries).lookup (resolveShared fun _ => false) "R"
        = .error (.ambiguousId ["RunAll", "run", "Rest"] "R") := by
  intro entries
  have h : ofList? entries = .ok (ofList entries) := rfl
  refine ⟨h, ?_, ?_⟩
  · rw [(lookup_eq_flatLookup h "RU").2 _ ("RunAll", 1) ("run", 1) [] (by decide) rfl]
    rfl
  · rw [(lookup_eq_flatLookup h "R").1]
    rfl

end CommandSpec.Trie
