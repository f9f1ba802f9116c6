import CommandSpec.Trie
import Mathlib.Data.List.Basic

/-!
# Proofs/Trie/Tree — what the tree of a trie holds

A tree is read in two ways: `(b.descend k).here?` is the place kept for the key `k` itself, and
`(b.descend k).places` are the places of all keys that `k` begins.  Inserting a key changes the
first at that key alone (`here?_descend_insert`) and the second at its beginnings alone
(`mem_places_descend_insert`).  From these two, the tree of a list of names with different keys
keeps exactly their positions (`here?_descend_root`, `mem_places_descend_root`).

Neither law asks for a well-formed tree: `descend` finds what `insert` has put there, whatever
stands around it.
-/

namespace CommandSpec

namespace Branches

variable {place q : Nat} {key k : List Char}

@[simp] theorem descend_nil (b : Branches) : b.descend [] = b := by cases b <;> rfl

@[simp] theorem nil_descend (k : List Char) : nil.descend k = nil := by cases k <;> rfl

@[simp] theorem leaf_descend_cons (p : Nat) (beside : Branches) (c : Char) (cs : List Char) :
    (leaf p beside).descend (c :: cs) = beside.descend (c :: cs) := rfl

theorem branch_descend_cons (l : Char) (below beside : Branches) (c : Char) (cs : List Char) :
    (branch l below beside).descend (c :: cs)
      = if l = c then below.descend cs else beside.descend (c :: cs) := rfl

@[simp] theorem here?_nil : nil.here? = none := rfl

@[simp] theorem here?_leaf (p : Nat) (beside : Branches) : (leaf p beside).here? = some p := rfl

@[simp] theorem here?_branch (l : Char) (below beside : Branches) :
    (branch l below beside).here? = none := rfl

/-! ## One key -/

theorem here?_descend_spine (place : Nat) :
    ∀ key k : List Char, ((spine place key).descend k).here? = if k = key then some place else none
  | [], [] => rfl
  | [], _ :: _ => rfl
  | _ :: _, [] => rfl
  | c :: cs, d :: ds => by
    rw [spine, branch_descend_cons]
    by_cases h : c = d
    · rw [if_pos h, here?_descend_spine place cs ds]
      simp [h]
    · rw [if_neg h, nil_descend, here?_nil]
      simp [Ne.symm h]

theorem places_spine (place : Nat) : ∀ key : List Char, (spine place key).places = [place]
  | [] => rfl
  | _ :: cs => by rw [spine, places, places, places_spine place cs, List.append_nil]

theorem mem_places_descend_spine (place q : Nat) :
    ∀ key k : List Char, q ∈ ((spine place key).descend k).places ↔ q = place ∧ k <+: key
  | key, [] => by simp [places_spine]
  | [], _ :: _ => by simp [spine, places]
  | c :: cs, d :: ds => by
    rw [spine, branch_descend_cons, List.cons_prefix_cons]
    by_cases h : c = d
    · rw [if_pos h, mem_places_descend_spine place q cs ds]
      simp [h]
    · rw [if_neg h, nil_descend, places]
      simp [Ne.symm h]

/-! ## One more key -/

/-- **Inserting a key gives it a place, unless it has one, and leaves every other key alone.** -/
theorem here?_descend_insert (place : Nat) (b : Branches) (key k : List Char) :
    ((b.insert place key).descend k).here?
      = if k = key then some ((b.descend key).here?.getD place) else (b.descend k).here? := by
  fun_induction insert place b key generalizing k with
  | case1 key => simp [here?_descend_spine]
  | case2 p beside => cases k <;> simp
  | case3 p beside c cs ih =>
    cases k with
    | nil => simp
    | cons d ds => simpa using ih (d :: ds)
  | case4 l below beside => cases k <;> simp
  | case5 below beside c cs ih =>
    cases k with
    | nil => simp
    | cons d ds => by_cases hd : c = d <;> simp [branch_descend_cons, hd, ih, eq_comm]
  | case6 l below beside c cs h ih =>
    cases k with
    | nil => simp
    | cons d ds =>
      by_cases hd : l = d
      · simp [branch_descend_cons, ← hd, h]
      · simpa [branch_descend_cons, h, hd] using ih (d :: ds)

/-- **Inserting a key adds its place at each of its beginnings, unless it has one already.** -/
theorem mem_places_descend_insert (place q : Nat) (b : Branches) (key k : List Char) :
    q ∈ ((b.insert place key).descend k).places
      ↔ q ∈ (b.descend k).places ∨ (q = place ∧ k <+: key ∧ (b.descend key).here? = none) := by
  fun_induction insert place b key generalizing k with
  | case1 key => simp [mem_places_descend_spine, places]
  | case2 p beside => simp
  | case3 p beside c cs ih =>
    cases k with
    | nil => simpa [places, or_assoc] using or_congr_right (a := q = p) (ih [])
    | cons d ds => simpa using ih (d :: ds)
  | case4 l below beside => cases k <;> simp [places, or_comm]
  | case5 below beside c cs ih =>
    cases k with
    | nil => simpa [places, or_right_comm, branch_descend_cons] using
        or_congr_left (c := q ∈ beside.places) (ih [])
    | cons d ds =>
      by_cases hd : c = d
      · simpa [branch_descend_cons, hd] using ih ds
      · simp [branch_descend_cons, hd, Ne.symm hd]
  | case6 l below beside c cs h ih =>
    cases k with
    | nil => simpa [places, or_assoc, branch_descend_cons, h] using
        or_congr_right (a := q ∈ below.places) (ih [])
    | cons d ds =>
      by_cases hd : l = d
      · simp [branch_descend_cons, ← hd, h]
      · simpa [branch_descend_cons, h, hd] using ih (d :: ds)

end Branches

namespace Trie

open Branches

variable {α : Type}

/-! ## The tree of a list of names -/

/-- `i` is the position, counted from `place`, of a name that has the property. -/
def IsPositionFrom (place : Nat) (names : List String) (P : String → Prop) (i : Nat) : Prop :=
  ∃ j n, names[j]? = some n ∧ i = place + j ∧ P n

theorem isPositionFrom_nil {place i : Nat} {P : String → Prop} : ¬ IsPositionFrom place [] P i :=
  fun ⟨_, _, h, _⟩ => by simp at h

theorem isPositionFrom_cons {place i : Nat} {n : String} {ns : List String} {P : String → Prop} :
    IsPositionFrom place (n :: ns) P i ↔ i = place ∧ P n ∨ IsPositionFrom (place + 1) ns P i := by
  constructor
  · rintro ⟨j, m, hm, rfl, hP⟩
    cases j with
    | zero =>
      obtain rfl : n = m := by simpa using hm
      exact .inl ⟨rfl, hP⟩
    | succ j => exact .inr ⟨j, m, by simpa using hm, by omega, hP⟩
  · rintro (⟨rfl, hP⟩ | ⟨j, m, hm, rfl, hP⟩)
    · exact ⟨0, n, rfl, rfl, hP⟩
    · exact ⟨j + 1, m, by simpa using hm, by omega, hP⟩

/-- The keys that are free for the names after the first stay free when the first is inserted. -/
theorem here?_descend_insert_of_mem {n m : String} {ns : List String} {place : Nat}
    {tree : Branches} (hd : ((n :: ns).map key).Nodup)
    (hn : ∀ m ∈ n :: ns, (tree.descend (key m)).here? = none) (hm : m ∈ ns) :
    ((tree.insert place (key n)).descend (key m)).here? = none := by
  have hne : key m ≠ key n := fun h =>
    (List.nodup_cons.1 hd).1 (h ▸ List.mem_map_of_mem (f := key) hm)
  rw [here?_descend_insert, if_neg hne]
  exact hn m (List.mem_cons_of_mem _ hm)

/-- Where no name has the key of another, or one that is in the tree, the tree keeps what it had
and gains the position of each name at its key. -/
theorem here?_descend_branchesFrom {names : List String} {place : Nat} {tree : Branches}
    (hd : (names.map key).Nodup) (hn : ∀ n ∈ names, (tree.descend (key n)).here? = none)
    (k : List Char) (i : Nat) :
    ((branchesFrom place tree names).descend k).here? = some i
      ↔ (tree.descend k).here? = some i ∨ IsPositionFrom place names (key · = k) i := by
  induction names generalizing place tree with
  | nil => simp [branchesFrom, isPositionFrom_nil]
  | cons n ns ih =>
    have hfree : (tree.descend (key n)).here? = none := hn n (List.mem_cons_self ..)
    rw [branchesFrom, ih (List.nodup_cons.1 hd).2 fun m => here?_descend_insert_of_mem hd hn,
      here?_descend_insert, hfree, isPositionFrom_cons]
    by_cases hk : k = key n
    · subst hk
      simp [hfree, eq_comm]
    · simp [hk, Ne.symm hk]

/-- …and at each beginning of its key. -/
theorem mem_places_descend_branchesFrom {names : List String} {place : Nat} {tree : Branches}
    (hd : (names.map key).Nodup) (hn : ∀ n ∈ names, (tree.descend (key n)).here? = none)
    (k : List Char) (i : Nat) :
    i ∈ ((branchesFrom place tree names).descend k).places
      ↔ i ∈ (tree.descend k).places ∨ IsPositionFrom place names (k <+: key ·) i := by
  induction names generalizing place tree with
  | nil => simp [branchesFrom, isPositionFrom_nil]
  | cons n ns ih =>
    have hfree : (tree.descend (key n)).here? = none := hn n (List.mem_cons_self ..)
    rw [branchesFrom, ih (List.nodup_cons.1 hd).2 fun m => here?_descend_insert_of_mem hd hn,
      mem_places_descend_insert, isPositionFrom_cons, or_assoc]
    simp [hfree]

/-! ## The trie of entries with different keys -/

/-- The keys of some entries, in the order of their declaration. -/
def keys (entries : List (String × α)) : List (List Char) := (entries.map (·.1)).map key

/-- A list of names is refused for a duplicate unless all keys differ and none is taken. -/
theorem duplicateFrom?_eq_none_iff {names : List String} {place : Nat} {tree : Branches} :
    duplicateFrom? place tree names = none
      ↔ (names.map key).Nodup ∧ ∀ n ∈ names, (tree.descend (key n)).here? = none := by
  induction names generalizing place tree with
  | nil => simp [duplicateFrom?]
  | cons n ns ih =>
    rw [duplicateFrom?]
    by_cases hfree : (tree.descend (key n)).here? = none
    · rw [if_neg (by simp [hfree]), ih, List.map_cons, List.nodup_cons]
      constructor
      · rintro ⟨hd, hn⟩
        have hne : ∀ m ∈ ns, key m ≠ key n := fun m hm h => by
          have := hn m hm
          rw [here?_descend_insert, if_pos h] at this
          simp at this
        refine ⟨⟨fun h => ?_, hd⟩, fun m hm => ?_⟩
        · obtain ⟨m, hm, h⟩ := List.mem_map.1 h
          exact hne m hm h
        · rcases List.mem_cons.1 hm with rfl | hm
          · exact hfree
          · have := hn m hm
            rwa [here?_descend_insert, if_neg (hne m hm)] at this
      · rintro ⟨hd, hn⟩
        exact ⟨hd.2, fun m => here?_descend_insert_of_mem (List.nodup_cons.2 hd) hn⟩
    · rw [if_pos (Option.isSome_iff_ne_none.2 hfree)]
      simp [hfree]

/-- **A trie is made exactly of entries whose keys differ.** -/
theorem ofList?_eq_ok_iff {entries : List (String × α)} {t : Trie α} :
    ofList? entries = .ok t ↔ (keys entries).Nodup ∧ t = ofList entries := by
  have hdup : duplicateFrom? 0 .nil (entries.map (·.1)) = none ↔ (keys entries).Nodup :=
    duplicateFrom?_eq_none_iff.trans (and_iff_left (by simp))
  rw [ofList?]
  cases h : duplicateFrom? 0 .nil (entries.map (·.1)) with
  | none => simp [hdup.1 h, eq_comm]
  | some name =>
    have hd : ¬ (keys entries).Nodup := fun hd => by rw [hdup.2 hd] at h; cases h
    simp [hd]

private theorem isPosition_iff {entries : List (String × α)} {P : String → Prop} {i : Nat} :
    IsPositionFrom 0 (entries.map (·.1)) P i ↔ ∃ e, entries[i]? = some e ∧ P e.1 := by
  simp only [IsPositionFrom, List.getElem?_map, Option.map_eq_some_iff]
  constructor
  · rintro ⟨j, _, ⟨e, he, rfl⟩, rfl, hP⟩
    exact ⟨e, by rwa [Nat.zero_add], hP⟩
  · rintro ⟨e, he, hP⟩
    exact ⟨i, e.1, ⟨e, he, rfl⟩, (Nat.zero_add i).symm, hP⟩

section DifferentKeys

variable {entries : List (String × α)} (hd : (keys entries).Nodup) {k : List Char} {i : Nat}
include hd

/-- **The place at a key is that of the entry with this key.** -/
theorem here?_descend_root :
    ((ofList entries).root.descend k).here? = some i ↔ ∃ e, entries[i]? = some e ∧ key e.1 = k := by
  rw [ofList, here?_descend_branchesFrom hd (by simp), isPosition_iff]
  simp

/-- **The places below a key are those of the entries that it begins.** -/
theorem mem_places_descend_root :
    i ∈ ((ofList entries).root.descend k).places ↔ ∃ e, entries[i]? = some e ∧ k <+: key e.1 := by
  rw [ofList, mem_places_descend_branchesFrom hd (by simp), isPosition_iff]
  simp [places]

end DifferentKeys

end Trie

end CommandSpec
