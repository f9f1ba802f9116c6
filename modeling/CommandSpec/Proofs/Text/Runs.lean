import CommandSpec.Proofs.Text.Paragraph
import CommandSpec.Proofs.Text.Words
import Mathlib.Data.List.SplitBy

/-!
# Proofs/Text/Runs — maximal runs, of characters and of lines

The **runs** of a list are its maximal stretches on which a test answers alike (`runs`), and what
holds of a list is shown run by run (`runs_induction`).  The runs that fail the test are, one behind
the other, all that fails it (`flatten_filter_runs`).  The words of a text are its runs of other
characters than blanks (`words_eq_runs`), and the groups of lines are the runs of lines that are not
blank (`lineGroups_eq_runs`).
-/

namespace CommandSpec.Text

section Runs

variable {α : Type*} {p : α → Bool} {b : Bool} {r l : List α}

/-- **The maximal runs** of a list: neighbours are in one run when a test answers alike for both. -/
def runs (p : α → Bool) (l : List α) : List (List α) := l.splitBy fun x y => p x == p y

/-- **A run is read as a whole.** -/
theorem runs_append (hne : r ≠ []) (hr : ∀ x ∈ r, p x = b) (hl : ∀ y ∈ l.head?, p y = !b) :
    runs p (r ++ l) = r :: runs p l := by
  have hchain : r.IsChain fun x y => p x == p y := List.Pairwise.isChain <|
    List.pairwise_of_forall_mem_list fun x hx y hy => by rw [hr x hx, hr y hy, beq_self_eq_true]
  rw [runs, List.splitBy_append, List.splitBy_of_isChain hne hchain, List.singleton_append]
  · rfl
  · intro x hx y hy
    rw [hr x (List.mem_of_mem_getLast? hx), hl y hy]
    cases b <;> rfl

/-- **Induction on the runs of a list.** -/
@[elab_as_elim] theorem runs_induction {motive : List α → Prop} (p : α → Bool) (nil : motive [])
    (run : ∀ b r l, r ≠ [] → (∀ x ∈ r, p x = b) → (∀ y ∈ l.head?, p y = !b) → motive l →
      motive (r ++ l)) (l : List α) : motive l := by
  match l with
  | [] => exact nil
  | x :: xs =>
    have hrun : ∀ y ∈ x :: xs.takeWhile (p · == p x), p y = p x := by
      refine List.forall_mem_cons.2 ⟨rfl, fun y hy => ?_⟩
      simpa using List.mem_takeWhile_imp hy
    have hrest : ∀ y ∈ (xs.dropWhile (p · == p x)).head?, p y = !p x := by
      intro y hy
      have hnot := List.head?_dropWhile_not (p · == p x) xs
      rw [Option.mem_def.1 hy] at hnot
      exact Bool.eq_not.2 (by simpa using hnot)
    have hxs := run (p x) _ _ (List.cons_ne_nil x _) hrun hrest
      (runs_induction p nil run (xs.dropWhile (p · == p x)))
    rwa [List.cons_append, List.takeWhile_append_dropWhile] at hxs
termination_by l.length
decreasing_by
  exact Nat.lt_succ_of_le (List.length_dropWhile_le _ _)

/-- A run of elements that satisfy the test is passed over. -/
theorem filter_runs_append_of_pos (hne : r ≠ []) (hr : ∀ x ∈ r, p x = true)
    (hl : ∀ y ∈ l.head?, p y = false) :
    (runs p (r ++ l)).filter (!·.all p) = (runs p l).filter (!·.all p) := by
  have hall : r.all p = true := List.all_eq_true.2 hr
  rw [runs_append hne hr hl, List.filter_cons_of_neg (by simp [hall])]

/-- A run of other elements is listed. -/
theorem filter_runs_append_of_neg (hne : r ≠ []) (hr : ∀ x ∈ r, p x = false)
    (hl : ∀ y ∈ l.head?, p y = true) :
    (runs p (r ++ l)).filter (!·.all p) = r :: (runs p l).filter (!·.all p) := by
  have hall : r.all p = false := by
    obtain ⟨x, r, rfl⟩ := List.exists_cons_of_ne_nil hne
    rw [List.all_cons, hr x List.mem_cons_self, Bool.false_and]
  rw [runs_append hne hr hl, List.filter_cons_of_pos (by simp [hall])]

/-- **Nothing else is passed over**: what is listed is all that does not satisfy the test. -/
theorem flatten_filter_runs (p : α → Bool) (l : List α) :
    ((runs p l).filter (!·.all p)).flatten = l.filter (!p ·) := by
  induction l using runs_induction p with
  | nil => rfl
  | run b r l hne hr hl ih =>
    rw [List.filter_append, ← ih]
    cases b with
    | true =>
      have hnone : r.filter (!p ·) = [] := List.filter_eq_nil_iff.2 fun x hx => by simp [hr x hx]
      rw [filter_runs_append_of_pos hne hr hl, hnone, List.nil_append]
    | false =>
      have hself : r.filter (!p ·) = r := List.filter_eq_self.2 fun x hx => by simp [hr x hx]
      rw [filter_runs_append_of_neg hne hr hl, hself, List.flatten_cons]

theorem runs_map {β : Type*} (f : β → α) (p : α → Bool) (l : List β) :
    runs p (l.map f) = (runs (p ∘ f) l).map (List.map f) := by
  induction l using runs_induction (p ∘ f) with
  | nil => rfl
  | run b r l hne hr hl ih =>
    have hhead : ∀ y ∈ (l.map f).head?, p y = !b := by
      intro y hy
      rw [List.head?_map] at hy
      obtain ⟨x, hx, rfl⟩ := Option.map_eq_some_iff.1 hy
      exact hl x hx
    have hrun : ∀ y ∈ r.map f, p y = b := List.forall_mem_map.2 hr
    rw [List.map_append, runs_append (by simpa using hne) hrun hhead, ih, runs_append hne hr hl,
      List.map_cons]

end Runs

variable {s : List Char}

/-! ## Words -/

/-- **The words of a text are its runs without blanks.** -/
theorem words_eq_runs (s : List Char) : words s = (runs isBlank s).filter (!allBlank ·) := by
  induction s using runs_induction isBlank with
  | nil => rfl
  | run b r s hne hr hs ih =>
    cases b with
    | true =>
      rw [words_append_of_allBlank (allBlank_iff.2 hr), ih]
      exact (filter_runs_append_of_pos hne hr hs).symm
    | false =>
      rw [words_append ⟨hne, hr⟩ hs, ih]
      exact (filter_runs_append_of_neg hne hr hs).symm

/-! ## Groups of lines -/

/-- A group ends where no line follows, or a blank one. -/
theorem lineGroupsFrom_of_head? {g ls : List (List Char)} (hg : g ≠ [])
    (hls : ∀ l ∈ ls.head?, allBlank l = true) : lineGroupsFrom g ls = g :: lineGroups ls := by
  have hflush : flushGroup g = [g] := by rw [flushGroup, if_neg (by simpa using hg)]
  cases ls with
  | nil => exact hflush
  | cons l ls =>
    have hl : allBlank l = true := hls l rfl
    rw [lineGroupsFrom_cons_blank hl, hflush, lineGroups, lineGroups, lineGroupsFrom_cons_blank hl]
    rfl

/-- **The groups of lines are the runs of lines that are not blank.** -/
theorem lineGroups_eq_runs (ls : List (List Char)) :
    lineGroups ls = (runs allBlank ls).filter (!·.all allBlank) := by
  induction ls using runs_induction allBlank with
  | nil => rfl
  | run b g ls hne hg hls ih =>
    cases b with
    | true => rw [lineGroups_blank_append hg, ih, filter_runs_append_of_pos hne hg hls]
    | false =>
      rw [lineGroups, lineGroupsFrom_append hg, List.nil_append, lineGroupsFrom_of_head? hne hls,
        ih, filter_runs_append_of_neg hne hg hls]

end CommandSpec.Text
