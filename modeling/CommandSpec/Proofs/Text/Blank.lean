import CommandSpec.Text.Blank
import Mathlib.Data.List.DropRight

/-!
# Proofs/Text/Blank — what trimming keeps

Trimming removes blanks at the ends and nothing else: blanks added in front or behind make no
difference, and what is left is empty exactly when the text is blank.
-/

namespace CommandSpec.Text

variable {s t : List Char} {c : Char}

theorem allBlank_iff : allBlank s = true ↔ ∀ c ∈ s, isBlank c = true := List.all_eq_true

@[simp] theorem allBlank_nil : allBlank [] = true := rfl

@[simp] theorem allBlank_cons : allBlank (c :: s) = (isBlank c && allBlank s) := rfl

@[simp] theorem allBlank_append : allBlank (s ++ t) = (allBlank s && allBlank t) := List.all_append

theorem not_mem_of_allBlank (hs : allBlank s = true) (hc : isBlank c = false) : c ∉ s :=
  fun h => by simp [allBlank_iff.1 hs c h] at hc

/-! ## The front -/

@[simp] theorem trimLeft_trimLeft (s : List Char) : trimLeft (trimLeft s) = trimLeft s :=
  List.dropWhile_idempotent ..

theorem trimLeft_append_of_allBlank (hs : allBlank s = true) : trimLeft (s ++ t) = trimLeft t :=
  List.dropWhile_append_of_pos (allBlank_iff.1 hs)

theorem trimLeft_cons_of_not_isBlank (hc : isBlank c = false) : trimLeft (c :: s) = c :: s :=
  List.dropWhile_cons_of_neg (by simp [hc])

theorem trimLeft_cons_of_isBlank (hc : isBlank c = true) : trimLeft (c :: s) = trimLeft s :=
  List.dropWhile_cons_of_pos hc

theorem mem_of_mem_trimLeft (h : c ∈ trimLeft s) : c ∈ s := (List.dropWhile_suffix _).subset h

theorem trimLeft_eq_nil_iff : trimLeft s = [] ↔ allBlank s = true := by
  rw [trimLeft, List.dropWhile_eq_nil_iff, allBlank_iff]

/-- What follows a character that is not blank is kept. -/
theorem trimLeft_append_of_not_allBlank (hs : allBlank s = false) :
    trimLeft (s ++ t) = trimLeft s ++ t := by
  have hne : s.dropWhile isBlank ≠ [] := fun h => by simp [trimLeft_eq_nil_iff.1 h] at hs
  rw [trimLeft, List.dropWhile_append, if_neg fun h => hne (List.isEmpty_iff.1 h)]
  rfl

/-- Where nothing is trimmed in front, no blank stands in front. -/
theorem takeWhile_isBlank_of_trimLeft (h : trimLeft s = s) : s.takeWhile isBlank = [] := by
  have hs : s.takeWhile isBlank ++ trimLeft s = s := List.takeWhile_append_dropWhile
  rw [h] at hs
  exact List.append_left_eq_self.1 hs

theorem takeWhile_isBlank_append {g : List Char} (hg : allBlank g = true) (hs : trimLeft s = s) :
    (g ++ s).takeWhile isBlank = g := by
  rw [List.takeWhile_append_of_pos (allBlank_iff.1 hg), takeWhile_isBlank_of_trimLeft hs,
    List.append_nil]

/-- A text is the blanks in front of it and what is left without them. -/
theorem exists_blank_append_trimLeft (s : List Char) :
    ∃ g, allBlank g = true ∧ s = g ++ trimLeft s :=
  ⟨s.takeWhile isBlank, List.all_takeWhile, List.takeWhile_append_dropWhile.symm⟩

@[simp] theorem allBlank_trimLeft : allBlank (trimLeft s) = allBlank s := by
  obtain ⟨g, hg, hs⟩ := exists_blank_append_trimLeft s
  conv_rhs => rw [hs, allBlank_append, hg, Bool.true_and]

/-- **Blanks end where the first other character stands.** -/
theorem blank_append_cons_inj {g g' r r' : List Char} {c' : Char} (hg : allBlank g = true)
    (hg' : allBlank g' = true) (hc : isBlank c = false) (hc' : isBlank c' = false)
    (h : g ++ c :: r = g' ++ c' :: r') : g = g' ∧ c :: r = c' :: r' := by
  have ht := congrArg trimLeft h
  rw [trimLeft_append_of_allBlank hg, trimLeft_append_of_allBlank hg',
    trimLeft_cons_of_not_isBlank hc, trimLeft_cons_of_not_isBlank hc'] at ht
  rw [ht] at h
  exact ⟨List.append_cancel_right h, ht⟩

/-! ## Words -/

/-- A place where a word ends: in front of a blank, or at the end of the text. -/
def EndsWord (s : List Char) : Prop := ∀ c, s.head? = some c → isBlank c = true

theorem endsWord_dropWhile (s : List Char) : EndsWord (s.dropWhile (!isBlank ·)) := by
  intro c hc
  have := List.head?_dropWhile_not (fun c => !isBlank c) s
  rw [hc] at this
  simpa using this

theorem endsWord_of_allBlank (hs : allBlank s = true) : EndsWord s :=
  fun _ hc => allBlank_iff.1 hs _ (List.mem_of_mem_head? hc)

/-- A word that ends, ends with blanks behind it too. -/
theorem EndsWord.append_blank (hs : EndsWord s) (ht : allBlank t = true) : EndsWord (s ++ t) := by
  cases s with
  | nil => exact endsWord_of_allBlank ht
  | cons c cs => exact hs

section Words

variable (hs : ∀ c ∈ s, isBlank c = false) (ht : EndsWord t)
include hs ht

/-- **A word goes on to the next blank**, or to the end of the text. -/
theorem takeWhile_append_of_word : (s ++ t).takeWhile (!isBlank ·) = s := by
  rw [List.takeWhile_append_of_pos fun c hc => by simp [hs c hc]]
  cases t with
  | nil => simp
  | cons c cs => simp [ht c rfl]

/-- What follows a word is left. -/
theorem dropWhile_append_of_word : (s ++ t).dropWhile (!isBlank ·) = t := by
  rw [List.dropWhile_append_of_pos fun c hc => by simp [hs c hc]]
  cases t with
  | nil => simp
  | cons c cs => simp [ht c rfl]

end Words

/-! ## The end -/

theorem trimRight_eq_rdropWhile : ∀ s : List Char, trimRight s = s.rdropWhile isBlank
  | [] => rfl
  | c :: cs => by
    rw [trimRight, trimRight_eq_rdropWhile cs, List.rdropWhile, List.rdropWhile, List.reverse_cons,
      List.dropWhile_append]
    cases h : cs.reverse.dropWhile isBlank with
    | nil => cases hc : isBlank c <;> simp [hc]
    | cons d ds =>
      cases hr : (d :: ds).reverse with
      | nil => simp at hr
      | cons e es => simpa using hr.symm

theorem trimRight_eq_reverse (s : List Char) : trimRight s = (trimLeft s.reverse).reverse :=
  trimRight_eq_rdropWhile s

theorem trimRight_append_of_allBlank (ht : allBlank t = true) :
    trimRight (s ++ t) = trimRight s := by
  rw [trimRight_eq_rdropWhile, trimRight_eq_rdropWhile, List.rdropWhile, List.reverse_append,
    List.dropWhile_append_of_pos fun c hc => allBlank_iff.1 ht c (List.mem_reverse.1 hc)]
  rfl

/-- What stands in front of a character that is not blank is kept. -/
theorem trimRight_append_of_not_allBlank (ht : allBlank t = false) :
    trimRight (s ++ t) = s ++ trimRight t := by
  have hr : allBlank t.reverse = false := List.all_reverse.trans ht
  rw [trimRight_eq_reverse, trimRight_eq_reverse, List.reverse_append,
    trimLeft_append_of_not_allBlank hr, List.reverse_append, List.reverse_reverse]

theorem trimRight_eq_nil_iff : trimRight s = [] ↔ allBlank s = true := by
  rw [trimRight_eq_rdropWhile, List.rdropWhile_eq_nil_iff, allBlank_iff]

/-- A text is what is left without the blanks at its end, and these. -/
theorem exists_trimRight_append_blank (s : List Char) :
    ∃ g, allBlank g = true ∧ s = trimRight s ++ g := by
  refine ⟨s.rtakeWhile isBlank, allBlank_iff.2 fun c hc => List.mem_rtakeWhile_imp hc, ?_⟩
  rw [trimRight_eq_rdropWhile, List.rdropWhile_append_rtakeWhile]

/-! ## Both ends -/

/-- **A text is its trimmed form between blanks.** -/
theorem exists_blank_append_trim (s : List Char) :
    ∃ g g', allBlank g = true ∧ allBlank g' = true ∧ s = g ++ trim s ++ g' := by
  obtain ⟨g, hg, hs⟩ := exists_blank_append_trimLeft s
  obtain ⟨g', hg', ht⟩ := exists_trimRight_append_blank (trimLeft s)
  refine ⟨g, g', hg, hg', ?_⟩
  rw [List.append_assoc, trim, ← ht, ← hs]

theorem trim_append_of_allBlank (ht : allBlank t = true) : trim (s ++ t) = trim s := by
  rw [trim, trim]
  cases hs : allBlank s with
  | true => rw [trimLeft_append_of_allBlank hs, trimLeft_eq_nil_iff.2 ht, trimLeft_eq_nil_iff.2 hs]
  | false => rw [trimLeft_append_of_not_allBlank hs, trimRight_append_of_allBlank ht]

theorem trim_of_allBlank_append (hs : allBlank s = true) : trim (s ++ t) = trim t := by
  rw [trim, trim, trimLeft_append_of_allBlank hs]

theorem trim_trimLeft (s : List Char) : trim (trimLeft s) = trim s := by
  obtain ⟨g, hg, hs⟩ := exists_blank_append_trimLeft s
  conv_rhs => rw [hs, trim_of_allBlank_append hg]

@[simp] theorem allBlank_trim : allBlank (trim s) = allBlank s := by
  obtain ⟨g, g', hg, hg', h⟩ := exists_blank_append_trim s
  conv_rhs => rw [h, allBlank_append, allBlank_append, hg, hg', Bool.true_and, Bool.and_true]

theorem trim_eq_nil_iff : trim s = [] ↔ allBlank s = true := by
  rw [trim, trimRight_eq_nil_iff, allBlank_trimLeft]

theorem trimRight_trim (s : List Char) : trimRight (trim s) = trim s := by
  rw [trim, trimRight_eq_rdropWhile, trimRight_eq_rdropWhile, List.rdropWhile_idempotent]

theorem trimLeft_trim (s : List Char) : trimLeft (trim s) = trim s := by
  obtain ⟨g, -, hs⟩ := exists_trimRight_append_blank (trimLeft s)
  rw [← trim] at hs
  cases ht : trim s with
  | nil => rfl
  | cons c r =>
    rw [ht, List.cons_append] at hs
    exact trimLeft_cons_of_not_isBlank (isBlank_head_trimLeft hs)

theorem mem_of_mem_trim (h : c ∈ trim s) : c ∈ s := by
  obtain ⟨g, g', -, -, hs⟩ := exists_blank_append_trim s
  rw [hs]
  exact List.mem_append_left g' (List.mem_append_right g h)

/-- **A trimmed text** neither begins nor ends with a blank. -/
structure IsTrimmed (s : List Char) : Prop where
  head : ∀ c ∈ s.head?, isBlank c = false
  last : ∀ c ∈ s.getLast?, isBlank c = false

theorem trimLeft_eq_self (h : ∀ c ∈ s.head?, isBlank c = false) : trimLeft s = s := by
  cases s with
  | nil => rfl
  | cons c s => exact trimLeft_cons_of_not_isBlank (h c rfl)

theorem IsTrimmed.trim_eq (h : IsTrimmed s) : trim s = s := by
  have hright : trimLeft s.reverse = s.reverse :=
    trimLeft_eq_self fun c hc => h.last c (List.head?_reverse ▸ hc)
  rw [trim, trimLeft_eq_self h.head, trimRight_eq_reverse, hright, List.reverse_reverse]

theorem head?_trimLeft (s : List Char) : ∀ c ∈ (trimLeft s).head?, isBlank c = false := by
  intro c hc
  obtain ⟨r, hr⟩ := List.head?_eq_some_iff.1 (Option.mem_def.1 hc)
  exact isBlank_head_trimLeft hr

theorem isTrimmed_trim (s : List Char) : IsTrimmed (trim s) where
  head := by
    rw [← trimLeft_trim]
    exact head?_trimLeft (trim s)
  last := by
    rw [trim, trimRight_eq_reverse, List.getLast?_reverse]
    exact head?_trimLeft _

end CommandSpec.Text
