import CommandSpec.Distance
import Mathlib.Data.List.Basic
import Mathlib.Order.Lattice

/-!
# Proofs/Suggest/Distance — the table of distances, and texts that are one edit apart

The table of two texts holds the distance of every two of their tails (`getD_distanceRows`): the
tails of the first text are its rows by definition, and a tail of the second text has the ends of
the rows (`distanceRows_tail`).  So the distance satisfies its recursion (`editDistance_cons_cons`),
from which every further law is derived.  Two texts are **one edit apart** (`OneEdit`) exactly when
their distance is one (`editDistance_eq_one_iff`).
-/

namespace CommandSpec

variable {α : Type} [DecidableEq α] {x y : α} {as bs : List α}

/-! ## The table -/

theorem getD_zero {β : Type} (l : List β) (d : β) : l.getD 0 d = l.headD d := by
  cases l <;> rfl

theorem getD_map_tail (rows : List (List Nat)) (p : Nat) :
    (rows.map List.tail).getD p [] = (rows.getD p []).tail := by
  simp only [List.getD_eq_getElem?_getD, List.getElem?_map]
  cases rows[p]? <;> rfl

theorem headD_map_tail (rows : List (List Nat)) :
    (rows.map List.tail).headD [] = (rows.headD []).tail := by
  cases rows <;> rfl

theorem getD_tail (row : List Nat) (q : Nat) : row.tail.getD q 0 = row.getD (q + 1) 0 := by
  cases row <;> rfl

/-- The ends of the rows below stand one place further than the rows do. -/
theorem exchangeCost?_tail (x y : α) (as bs : List α) (below : List (List Nat)) (k : Nat) :
    exchangeCost? x y as bs (below.map List.tail) k = exchangeCost? x y as bs below (k + 1) := by
  simp only [exchangeCost?, getD_map_tail, getD_tail, Nat.add_right_comm k 1]

theorem distanceRow_tail (x : α) (as : List α) (below : List (List Nat)) (row : List Nat) (k : Nat)
    (bs : List α) : distanceRow x as (below.map List.tail) row k bs =
      distanceRow x as below row (k + 1) bs := by
  induction bs generalizing row k with
  | nil => rfl
  | cons y bs ih => simp only [distanceRow, ih, exchangeCost?_tail]

/-- **The table of a text without its first item** has the ends of the rows. -/
theorem distanceRows_tail (as : List α) (y : α) (bs : List α) :
    distanceRows as bs = (distanceRows as (y :: bs)).map List.tail := by
  induction as with
  | nil => simp [distanceRows, List.range_succ]
  | cons x as ih =>
    rw [distanceRows, distanceRows, List.map_cons, ih, distanceRow_tail, headD_map_tail]
    rfl

/-- The first row of a tail of the first text. -/
theorem getD_distanceRows_left (as bs : List α) {p : Nat} (hp : p ≤ as.length) :
    (distanceRows as bs).getD p [] = (distanceRows (as.drop p) bs).headD [] := by
  induction p generalizing as with
  | zero => exact getD_zero ..
  | succ p ih =>
    obtain _ | ⟨x, as⟩ := as
    · exact absurd hp (Nat.not_succ_le_zero p)
    · exact ih as (Nat.le_of_succ_le_succ hp)

theorem getD_headD_distanceRows (as bs : List α) {q : Nat} (hq : q ≤ bs.length) :
    ((distanceRows as bs).headD []).getD q 0 = editDistance as (bs.drop q) := by
  induction q generalizing bs with
  | zero => exact getD_zero ..
  | succ q ih =>
    obtain _ | ⟨y, bs⟩ := bs
    · exact absurd hq (Nat.not_succ_le_zero q)
    · rw [List.drop_succ_cons, ← ih bs (Nat.le_of_succ_le_succ hq), distanceRows_tail as y bs,
        headD_map_tail, getD_tail]

/-- **The table of two texts** holds the distances of their tails. -/
theorem getD_distanceRows {p q : Nat} (hp : p ≤ as.length) (hq : q ≤ bs.length) :
    ((distanceRows as bs).getD p []).getD q 0 = editDistance (as.drop p) (bs.drop q) := by
  rw [getD_distanceRows_left as bs hp, getD_headD_distanceRows _ bs hq]

/-! ## The recursion -/

@[simp] theorem editDistance_nil_left (bs : List α) : editDistance [] bs = bs.length := by
  simp [editDistance, distanceRows, List.range_succ]

@[simp] theorem editDistance_nil_right (as : List α) : editDistance as [] = as.length := by
  cases as <;> rfl

/-- The distance when `x` and the first `y` behind it are exchanged. -/
def exchangeDistance? (x y : α) (as bs : List α) : Option Nat :=
  match as.idxOf? y, bs.idxOf? x with
  | some p, some q => some (editDistance (as.drop (p + 1)) (bs.drop (q + 1)) + p + q + 1)
  | _, _ => none

theorem exchangeCost?_distanceRows (x y : α) (as bs : List α) :
    exchangeCost? x y as bs (distanceRows as (y :: bs)) 0 = exchangeDistance? x y as bs := by
  rw [exchangeCost?, exchangeDistance?]
  cases hp : as.idxOf? y with
  | none => rfl
  | some p =>
    cases hq : bs.idxOf? x with
    | none => rfl
    | some q =>
      obtain ⟨hp, -⟩ := List.idxOf?_eq_some_iff.1 hp
      obtain ⟨hq, -⟩ := List.idxOf?_eq_some_iff.1 hq
      have hq' : q + 2 ≤ (y :: bs).length := Nat.succ_le_succ hq
      simp only [Nat.zero_add, getD_distanceRows hp hq', List.drop_succ_cons]

/-- **The distance of two texts** is the least of what the four edits of their first items cost. -/
theorem editDistance_cons_cons (x y : α) (as bs : List α) :
    editDistance (x :: as) (y :: bs) =
      let plain := min (editDistance as (y :: bs) + 1)
        (min (editDistance (x :: as) bs + 1) (editDistance as bs + if x = y then 0 else 1))
      (exchangeDistance? x y as bs).elim plain (min plain) := by
  have hbeside : (distanceRow x as (distanceRows as (y :: bs))
      ((distanceRows as (y :: bs)).headD []).tail 1 bs).headD 0 = editDistance (x :: as) bs := by
    rw [editDistance, distanceRows, distanceRows_tail as y bs, headD_map_tail, distanceRow_tail]
    rfl
  have hreplace : ((distanceRows as (y :: bs)).headD []).tail.headD 0 = editDistance as bs := by
    rw [editDistance, distanceRows_tail as y bs, headD_map_tail]
  rw [← hbeside, ← hreplace, ← exchangeCost?_distanceRows]
  rw [editDistance, distanceRows, distanceRow]
  cases exchangeCost? x y as bs (distanceRows as (y :: bs)) 0 <;> rfl

/-- What it takes that two texts are close to each other. -/
theorem editDistance_cons_cons_le_iff {n : Nat} : editDistance (x :: as) (y :: bs) ≤ n ↔
    editDistance as (y :: bs) + 1 ≤ n ∨ editDistance (x :: as) bs + 1 ≤ n ∨
    editDistance as bs + (if x = y then 0 else 1) ≤ n ∨
    ∃ p q, as.idxOf? y = some p ∧ bs.idxOf? x = some q ∧
      editDistance (as.drop (p + 1)) (bs.drop (q + 1)) + p + q + 1 ≤ n := by
  rw [editDistance_cons_cons, exchangeDistance?]
  cases as.idxOf? y with
  | none => simp
  | some p =>
    cases bs.idxOf? x with
    | none => simp
    | some q => simp

/-! ## Texts that are one edit apart -/

theorem editDistance_self (as : List α) : editDistance as as = 0 := by
  induction as with
  | nil => rfl
  | cons x as ih =>
    refine Nat.le_zero.1 (editDistance_cons_cons_le_iff.2 (.inr (.inr (.inl ?_))))
    rw [ih, if_pos rfl]

/-- **Texts of distance zero** are equal. -/
theorem editDistance_eq_zero_iff : editDistance as bs = 0 ↔ as = bs := by
  refine ⟨fun h => ?_, fun h => h ▸ editDistance_self as⟩
  induction as generalizing bs with
  | nil => simpa using h
  | cons x as ih =>
    cases bs with
    | nil => simp at h
    | cons y bs =>
      obtain h | h | h | ⟨p, q, -, -, h⟩ := editDistance_cons_cons_le_iff.1 h.le
      · omega
      · omega
      · split at h
        · rw [‹x = y›, ih (Nat.le_zero.1 h)]
        · omega
      · omega

/-- **One text is another after a single edit** of an item, or of two neighbours that differ. -/
inductive OneEdit : List α → List α → Prop
  | insert (c : α) (as : List α) : OneEdit as (c :: as)
  | delete (c : α) (as : List α) : OneEdit (c :: as) as
  | replace {c d : α} (hne : c ≠ d) (as : List α) : OneEdit (c :: as) (d :: as)
  | exchange {c d : α} (hne : c ≠ d) (as : List α) : OneEdit (c :: d :: as) (d :: c :: as)
  | behind (x : α) {as bs : List α} (h : OneEdit as bs) : OneEdit (x :: as) (x :: bs)

namespace OneEdit

theorem editDistance_le_one (h : OneEdit as bs) : editDistance as bs ≤ 1 := by
  induction h with
  | insert c as =>
    cases as with
    | nil => simp
    | cons x as => exact editDistance_cons_cons_le_iff.2 (.inr (.inl (by rw [editDistance_self])))
  | delete c as =>
    cases as with
    | nil => simp
    | cons x as => exact editDistance_cons_cons_le_iff.2 (.inl (by rw [editDistance_self]))
  | replace hne as =>
    refine editDistance_cons_cons_le_iff.2 (.inr (.inr (.inl ?_)))
    rw [editDistance_self, if_neg hne]
  | exchange hne as =>
    refine editDistance_cons_cons_le_iff.2 (.inr (.inr (.inr ⟨0, 0, ?_, ?_, ?_⟩)))
    · simp [List.idxOf?_cons]
    · simp [List.idxOf?_cons]
    · rw [List.drop_succ_cons, List.drop_succ_cons, List.drop_zero, editDistance_self]
  | behind x h ih =>
    refine editDistance_cons_cons_le_iff.2 (.inr (.inr (.inl ?_)))
    rw [if_pos rfl]
    exact ih

omit [DecidableEq α] in
theorem ne (h : OneEdit as bs) : as ≠ bs := by
  induction h with
  | insert c as => simp
  | delete c as => simp
  | replace hne as => simpa using hne
  | exchange hne as => simp [hne]
  | behind x h ih => simpa using ih

end OneEdit

theorem exists_eq_cons_of_idxOf?_eq_zero (h : as.idxOf? x = some 0) : ∃ as', as = x :: as' := by
  cases as with
  | nil => simp at h
  | cons z as =>
    by_cases hz : z = x
    · exact ⟨as, by rw [hz]⟩
    · simp [List.idxOf?_cons, hz] at h

theorem eq_or_oneEdit_of_editDistance_le_one (hle : editDistance as bs ≤ 1) :
    as = bs ∨ OneEdit as bs := by
  have heq {as bs : List α} (h : editDistance as bs + 1 ≤ 1) : as = bs :=
    editDistance_eq_zero_iff.1 (Nat.le_zero.1 (Nat.le_of_succ_le_succ h))
  induction as generalizing bs with
  | nil =>
    obtain _ | ⟨c, _ | ⟨d, bs⟩⟩ := bs
    · exact .inl rfl
    · exact .inr (.insert c [])
    · simp at hle
  | cons x as ih =>
    obtain _ | ⟨y, bs⟩ := bs
    · obtain _ | ⟨d, as⟩ := as
      · exact .inr (.delete x [])
      · simp at hle
    · obtain h | h | h | ⟨p, q, hp, hq, h⟩ := editDistance_cons_cons_le_iff.1 hle
      · exact .inr (heq h ▸ .delete x _)
      · exact .inr (heq h ▸ .insert y _)
      · by_cases hxy : x = y
        · rw [if_pos hxy] at h
          exact hxy ▸ (ih h).imp (congrArg _) (.behind x)
        · rw [if_neg hxy] at h
          exact .inr (heq h ▸ .replace hxy _)
      · -- Nothing stands between the items that are exchanged.
        obtain ⟨rfl, rfl⟩ : p = 0 ∧ q = 0 := by omega
        obtain ⟨as, rfl⟩ := exists_eq_cons_of_idxOf?_eq_zero hp
        obtain ⟨bs, rfl⟩ := exists_eq_cons_of_idxOf?_eq_zero hq
        obtain rfl : as = bs := heq h
        by_cases hxy : x = y
        · exact .inl (by rw [hxy])
        · exact .inr (.exchange hxy as)

/-- **Two texts have the distance one** exactly when they are one edit apart. -/
theorem editDistance_eq_one_iff : editDistance as bs = 1 ↔ OneEdit as bs := by
  constructor
  · intro h
    obtain rfl | h' := eq_or_oneEdit_of_editDistance_le_one h.le
    · rw [editDistance_self] at h
      exact absurd h Nat.zero_ne_one
    · exact h'
  · intro h
    exact le_antisymm h.editDistance_le_one
      (Nat.one_le_iff_ne_zero.2 fun h0 => h.ne (editDistance_eq_zero_iff.1 h0))

end CommandSpec
