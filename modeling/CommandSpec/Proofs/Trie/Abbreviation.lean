import CommandSpec.Proofs.Text.Case
import CommandSpec.Proofs.Trie.Lookup

/-!
# Proofs/Trie/Abbreviation — the beginnings of a name

A name can be abbreviated to any of its beginnings, typed as it was declared: what is looked up is
the name that the beginning is, or else the names that it begins, and this name is one of them
(`lookup_abbreviation`).  Keys are compared in lower case, so that one kind of beginning finds
another key: that which closes with a capital sigma, where the name goes on in the same word.
-/

namespace CommandSpec.Trie

variable {α : Type} {entries : List (String × α)} {t : Trie α} {e : String × α}
  {input rest : String}

/-- **Looking an input up finds an entry**: it gives the payload of another that the input names in
whole, or the payload of this one, or what is made of several candidates of which this is one. -/
def Finds (t : Trie α) (resolve : List (String × α) → Option α) (input : String)
    (e : String × α) : Prop :=
  (∃ e' ∈ t.entries, key e'.1 = key input ∧ t.lookup resolve input = .ok e'.2) ∨
    t.lookup resolve input = .ok e.2 ∨
    ∃ candidates, e ∈ candidates ∧ t.lookup resolve input =
      (resolve candidates).elim (.error (.ambiguousId (candidates.map (·.1)) input)) .ok

theorem Finds.ne_noMatch {resolve : List (String × α) → Option α} (h : t.Finds resolve input e)
    (available : List Datum) : t.lookup resolve input ≠ .error (.noMatch input available) := by
  obtain ⟨e', -, -, h⟩ | h | ⟨candidates, -, h⟩ := h
  · rw [h]
    exact nofun
  · rw [h]
    exact nofun
  · rw [h]
    cases resolve candidates <;> exact nofun

/-- The key of a beginning begins the key of the name, unless it closes with a sigma. -/
theorem key_prefix_iff {name : String} (hname : name = input ++ rest) :
    key input <+: key name ↔ ¬ Text.ClosesSigma input.toList rest.toList := by
  rw [hname, key, key, String.toList_append, Text.lowerChars_prefix_iff]

section DifferentKeys

variable (hd : (keys entries).Nodup)
include hd

/-- **A beginning of a key finds its entry**: another that is whole comes first, and otherwise the
entry is the only candidate, or one of those that are left to the resolver. -/
theorem finds_of_beginning (he : e ∈ entries) (hkey : key input <+: key e.1)
    (resolve : List (String × α) → Option α) : (ofList entries).Finds resolve input e := by
  by_cases hwhole : ∃ e' ∈ entries, key e'.1 = key input
  · obtain ⟨e', he', hk⟩ := hwhole
    exact .inl ⟨e', he', hk, lookup_of_key_eq hd he' hk resolve⟩
  · push Not at hwhole
    have hmem : e ∈ extensions entries input :=
      List.mem_filter.2 ⟨he, List.isPrefixOf_iff_prefix.2 hkey⟩
    rw [Finds, lookup, candidates_of_key_ne hd hwhole]
    generalize extensions entries input = found at hmem
    obtain _ | ⟨first, _ | ⟨second, more⟩⟩ := found
    · cases hmem
    · rw [List.mem_singleton.1 hmem]
      exact .inr (.inl rfl)
    · refine .inr (.inr ⟨_, hmem, ?_⟩)
      cases hr : resolve (first :: second :: more) <;> simp only [hr, Option.elim]

/-- An entry whose key an input does not begin is no candidate. -/
theorem not_mem_candidates (hkey : ¬ key input <+: key e.1) :
    e ∉ (ofList entries).candidates input := by
  intro hmem
  by_cases hwhole : ∃ e' ∈ entries, key e'.1 = key input
  · obtain ⟨e', he', hk⟩ := hwhole
    rw [candidates_of_key_eq hd he' hk, List.mem_singleton] at hmem
    rw [hmem, hk] at hkey
    exact hkey (List.prefix_refl _)
  · push Not at hwhole
    rw [candidates_of_key_ne hd hwhole] at hmem
    exact hkey (List.isPrefixOf_iff_prefix.1 (List.mem_filter.1 hmem).2)

/-- **An input is unknown exactly when its key begins none.** -/
theorem lookup_eq_noMatch_iff (resolve : List (String × α) → Option α) :
    (∃ available, (ofList entries).lookup resolve input = .error (.noMatch input available)) ↔
      ∀ e ∈ entries, ¬ key input <+: key e.1 := by
  constructor
  · rintro ⟨available, h⟩ e he hkey
    exact (finds_of_beginning hd he hkey resolve).ne_noMatch available h
  · intro hnone
    have hne : ∀ e ∈ entries, key e.1 ≠ key input := fun e he hk =>
      hnone e he (hk ▸ List.prefix_refl _)
    have hnil : extensions entries input = [] :=
      List.filter_eq_nil_iff.2 fun e he => by
        rw [List.isPrefixOf_iff_prefix]
        exact hnone e he
    refine ⟨(ofList entries).names.map .text, ?_⟩
    rw [lookup, candidates_of_key_ne hd hne, hnil]

end DifferentKeys

/-- **A declared name can be abbreviated** to each of its beginnings, which is never unknown.  Only
a beginning that closes with a capital sigma, where the name goes on in the same word, does not find
it: such an input is unknown, unless its key begins another name. -/
theorem lookup_abbreviation (h : ofList? entries = .ok t) (he : e ∈ entries)
    (hname : e.1 = input ++ rest) (resolve : List (String × α) → Option α) :
    (¬ Text.ClosesSigma input.toList rest.toList → t.Finds resolve input e ∧
      ∀ available, t.lookup resolve input ≠ .error (.noMatch input available)) ∧
    (Text.ClosesSigma input.toList rest.toList → e ∉ t.candidates input ∧
      ((∃ available, t.lookup resolve input = .error (.noMatch input available)) ↔
        ∀ e' ∈ entries, ¬ key input <+: key e'.1)) := by
  obtain ⟨hd, rfl⟩ := ofList?_eq_ok_iff.1 h
  have hkey := key_prefix_iff hname
  constructor
  · intro hopen
    have hfinds := finds_of_beginning hd he (hkey.2 hopen) resolve
    exact ⟨hfinds, hfinds.ne_noMatch⟩
  · intro hcloses
    exact ⟨not_mem_candidates hd fun hbegins => hkey.1 hbegins hcloses,
      lookup_eq_noMatch_iff hd resolve⟩

/-- `ΑΣ` closes with a sigma from which `ΑΣΒ` goes on, and `Α` does not. -/
theorem lookup_abbreviation_sigma :
    let entries := [("ΑΣΒ", 1), ("RunAll", 2)]
    ofList? entries = .ok (ofList entries) ∧
      ¬ Text.ClosesSigma "Α".toList "ΣΒ".toList ∧
      (ofList entries).Finds sharedPayload? "Α" ("ΑΣΒ", 1) ∧
      Text.ClosesSigma "ΑΣ".toList "Β".toList ∧
      ∃ available,
        (ofList entries).lookup sharedPayload? "ΑΣ" = .error (.noMatch "ΑΣ" available) := by
  intro entries
  have h : ofList? entries = .ok (ofList entries) :=
    ofList?_eq_ok_iff.2 ⟨by decide +kernel, rfl⟩
  have he : ("ΑΣΒ", 1) ∈ entries := List.mem_cons_self
  have hone : "ΑΣΒ" = "Α" ++ "ΣΒ" := rfl
  have htwo : "ΑΣΒ" = "ΑΣ" ++ "Β" := rfl
  have hopen : ¬ Text.ClosesSigma "Α".toList "ΣΒ".toList := by
    rw [← key_prefix_iff hone]
    decide +kernel
  have hcloses : Text.ClosesSigma "ΑΣ".toList "Β".toList := ⟨['Α'], [], rfl, rfl, by decide +kernel⟩
  have hnone : ∀ e ∈ entries, ¬ key "ΑΣ" <+: key e.1 := by decide +kernel
  exact ⟨h, hopen, ((lookup_abbreviation h he hone sharedPayload?).1 hopen).1, hcloses,
    ((lookup_abbreviation h he htwo sharedPayload?).2 hcloses).2.2 hnone⟩

/-- **A beginning of the only name can be unknown**, though no other name begins with it. -/
theorem lookup_sigma_unknown :
    ofList? [("ΑΣΒ", 1)] = .ok (ofList [("ΑΣΒ", 1)]) ∧ "ΑΣΒ" = "ΑΣ" ++ "Β" ∧
      (ofList [("ΑΣΒ", 1)]).lookup sharedPayload? "ΑΣ" =
        .error (.noMatch "ΑΣ" [.text "ΑΣΒ"]) := by
  have hd : (keys [("ΑΣΒ", 1)]).Nodup := by decide +kernel
  have hnone : extensions [("ΑΣΒ", 1)] "ΑΣ" = [] := by decide +kernel
  exact ⟨ofList?_eq_ok_iff.2 ⟨hd, rfl⟩, rfl, (lookup_ofList hd _).trans (flatLookup_of_nil hnone)⟩

end CommandSpec.Trie
