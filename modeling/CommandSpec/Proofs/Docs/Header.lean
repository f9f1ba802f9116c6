import CommandSpec.Proofs.Docs.Page
import CommandSpec.Proofs.Text.Blank
import CommandSpec.Proofs.Text.Paragraph
import Mathlib.Data.List.TakeDrop

/-!
# Proofs/Docs/Header — a heading that is printed is the header that is read

Both forms of a heading are read back with what stands below (`header?_verbatim`), and the section
that a header names is the one whose synonym heads it (`ofHeader?_lower`).
-/

namespace CommandSpec

namespace Text

variable {c : Char} {w : List Char}

/-! ## Characters of ASCII -/

theorem toNat_of_isAlphanum (h : c.isAlphanum = true) :
    48 ≤ c.toNat ∧ c.toNat ≤ 57 ∨ 65 ≤ c.toNat ∧ c.toNat ≤ 90 ∨ 97 ≤ c.toNat ∧ c.toNat ≤ 122 := by
  have h' : (c.isUpper = true ∨ c.isLower = true) ∨ c.isDigit = true := by
    rwa [← Bool.or_eq_true, ← Bool.or_eq_true]
  rcases h' with (h' | h') | h'
  · obtain ⟨h₁, h₂⟩ := of_decide_eq_true h'
    exact .inr (.inl ⟨UInt32.le_iff_toNat_le.1 h₁, UInt32.le_iff_toNat_le.1 h₂⟩)
  · obtain ⟨h₁, h₂⟩ := Bool.and_eq_true_iff.1 h'
    exact .inr (.inr ⟨UInt32.le_iff_toNat_le.1 (of_decide_eq_true h₁),
      UInt32.le_iff_toNat_le.1 (of_decide_eq_true h₂)⟩)
  · obtain ⟨h₁, h₂⟩ := Bool.and_eq_true_iff.1 h'
    exact .inl ⟨UInt32.le_iff_toNat_le.1 (of_decide_eq_true h₁),
      UInt32.le_iff_toNat_le.1 (of_decide_eq_true h₂)⟩

theorem isBlank_of_toNat (h : 0x20 < c.toNat) (h' : c.toNat < 0x80) : isBlank c = false := by
  simp only [isBlank, Bool.or_eq_false_iff, Bool.and_eq_false_iff, decide_eq_false_iff_not,
    beq_eq_false_iff_ne]
  omega

theorem isWord_of_isAlphanum (h : c.isAlphanum = true) : isWord c = true := by
  have hc := toNat_of_isAlphanum h
  rw [isWord, isAlphanumeric, if_pos (by omega), h, Bool.or_true]

/-- A word character of ASCII is neither blank nor a sign. -/
theorem isBlank_of_isWord (h : isWord c = true) (h' : c.toNat < 0x80) :
    isBlank c = false ∧ c ≠ '#' := by
  rw [isWord, Bool.or_eq_true, decide_eq_true_eq, isAlphanumeric, if_pos h'] at h
  rcases h with rfl | h
  · decide
  · have hc := toNat_of_isAlphanum h
    refine ⟨isBlank_of_toNat (by omega) h', fun h0 => ?_⟩
    rw [h0] at hc
    exact absurd hc (by decide)

/-- **Letters of ASCII are lowered one by one.** -/
theorem lower_ofList (h : ∀ c ∈ w, c.toNat < 0x80) :
    lower (.ofList w) = .ofList (w.map Char.toLower) := by
  have hfrom : ∀ before, lowerFrom before w = w.map Char.toLower := by
    induction w with
    | nil => exact fun _ => rfl
    | cons c cs ih =>
      intro before
      have hc := h c (List.mem_cons_self ..)
      have hsigma : c ≠ 'Σ' := fun h0 => absurd (h0 ▸ hc) (by decide)
      rw [lowerFrom, if_neg hsigma, lowerChar, if_pos hc,
        ih fun d hd => h d (List.mem_cons_of_mem c hd)]
      rfl
  rw [lower, String.toList_ofList, lowerChars, hfrom]

theorem isAlpha_of_isLower_toLower (h : c.toLower.isLower = true) : c.isAlpha = true := by
  by_cases hc : c.isUpper = true
  · exact Bool.or_eq_true_iff.2 (.inl hc)
  · have hlow : c.toLower = c := dif_neg fun hbounds => hc (decide_eq_true hbounds)
    rw [hlow] at h
    exact Bool.or_eq_true_iff.2 (.inr h)

end Text

/-! ## The section of a header -/

namespace Section

theorem ofHeader?_eq_some_iff {header : String} {s : Section} :
    ofHeader? header = some s ↔ header ∈ s.synonyms := by
  unfold ofHeader?
  cases s <;> grind [synonyms]

theorem ofHeader?_eq_none_iff {header : String} :
    ofHeader? header = none ↔ ∀ s : Section, header ∉ s.synonyms := by
  rw [Option.eq_none_iff_forall_ne_some]
  exact forall_congr' fun s => not_congr ofHeader?_eq_some_iff

/-- The words that head a section are in lower case letters. -/
theorem isLower_of_mem_synonyms {s : Section} {word : String} (h : word ∈ s.synonyms) :
    word ≠ "" ∧ ∀ c ∈ word.toList, c.isLower = true := by
  have hall : ∀ s ∈ [summary, arguments, examples], ∀ word ∈ s.synonyms,
      word ≠ "" ∧ word.toList.all Char.isLower = true := by decide
  obtain ⟨hne, hlower⟩ := hall s (by cases s <;> decide) word h
  exact ⟨hne, List.all_eq_true.1 hlower⟩

end Section

namespace Docs

open Text

variable {ls : List (List Char)}

/-! ## Headings -/

namespace Heading

variable {h : Heading} {s : Section} {s? : Option Section}

/-- A heading of a known section is a word of letters. -/
theorem isAlpha_of_mem_synonyms (hs : h.lowered ∈ s.synonyms) :
    h.word ≠ [] ∧ ∀ c ∈ h.word, c.isAlpha = true := by
  obtain ⟨hne, hlower⟩ := Section.isLower_of_mem_synonyms hs
  rw [lowered, String.toList_ofList] at hlower
  constructor
  · intro h0
    rw [lowered, h0] at hne
    exact hne rfl
  · exact fun c hc => isAlpha_of_isLower_toLower (hlower _ (List.mem_map_of_mem hc))

theorem Admits.isBlank {c : Char} (hc : h.Admits c) (hh : h.hashed = true) :
    isBlank c = false := by
  have hform := hc.2
  rwa [if_pos hh] at hform

theorem Admits.isWord {c : Char} (hc : h.Admits c) (hh : h.hashed = false) : isWord c = true := by
  have hform := hc.2
  rwa [hh, if_neg Bool.false_ne_true] at hform

/-- **What every heading is made of.** -/
theorem Heads.form (hh : h.Heads s?) : h.word ≠ [] ∧ ∀ c ∈ h.word, h.Admits c := by
  cases s? with
  | none => exact ⟨hh.1, hh.2.1⟩
  | some s =>
    obtain ⟨hne, halpha⟩ := isAlpha_of_mem_synonyms hh
    refine ⟨hne, fun c hc => ?_⟩
    have hnum : c.isAlphanum = true := by rw [Char.isAlphanum, halpha c hc, Bool.true_or]
    have hnat := toNat_of_isAlphanum hnum
    refine ⟨by omega, ?_⟩
    split
    · exact isBlank_of_toNat (by omega) (by omega)
    · exact isWord_of_isAlphanum hnum

/-- **A header names the section that its heading heads.** -/
theorem ofHeader?_lower (hh : h.Heads s?) : Section.ofHeader? (lower (.ofList h.word)) = s? := by
  rw [lower_ofList fun c hc => (hh.form.2 c hc).1]
  cases s? with
  | none => exact Section.ofHeader?_eq_none_iff.2 hh.2.2
  | some s => exact Section.ofHeader?_eq_some_iff.2 hh

end Heading

/-! ## Where the header ends -/

theorem afterLineEnd?_append {l : List Char} (hblank : allBlank l = false) (hmem : '\n' ∉ l)
    (s : List Char) : afterLineEnd? (l ++ s) = none := by
  induction l with
  | nil => cases hblank
  | cons c cs ih =>
    obtain ⟨hc, hcs⟩ : '\n' ≠ c ∧ '\n' ∉ cs := by simpa using hmem
    rw [List.cons_append, afterLineEnd?]
    cases hb : isBlank c with
    | false => rfl
    | true =>
      rw [allBlank_cons, hb, Bool.true_and] at hblank
      rw [ih hblank hcs]
      exact if_neg (Ne.symm hc)

/-- A header ends with its line when no blank line is below it. -/
theorem afterLineEnd?_verbatim (hblank : ∀ l ∈ ls, allBlank l = false) (hmem : ∀ l ∈ ls, '\n' ∉ l) :
    afterLineEnd? ('\n' :: verbatim ls) = some (verbatim ls) := by
  have hnone : afterLineEnd? (verbatim ls) = none := by
    cases ls with
    | nil => rfl
    | cons l ls =>
      have hl := List.mem_cons_self (a := l) (l := ls)
      rw [verbatim_cons]
      exact afterLineEnd?_append (hblank l hl) (hmem l hl) _
  rw [afterLineEnd?, if_pos (by decide), hnone]
  rfl

theorem span_append_of_pos {p : Char → Bool} {w s : List Char} {c : Char}
    (hw : ∀ c ∈ w, p c = true) (hc : p c = false) : (w ++ c :: s).span p = (w, c :: s) := by
  rw [List.span_eq_takeWhile_dropWhile, List.takeWhile_append_of_pos hw,
    List.dropWhile_append_of_pos hw, List.takeWhile_cons_of_neg (by simp [hc]),
    List.dropWhile_cons_of_neg (by simp [hc]), List.append_nil]

theorem header?_hashed {c : Char} {w : List Char} (hw : ∀ d ∈ c :: w, isBlank d = false)
    (s : List Char) : header? ('#' :: ' ' :: (c :: w ++ '\n' :: s)) =
      (afterLineEnd? ('\n' :: s)).map (c :: w, ·) := by
  have hstart : trimLeft (' ' :: (c :: w ++ '\n' :: s)) = c :: w ++ '\n' :: s := by
    rw [trimLeft_cons_of_isBlank (by decide), List.cons_append,
      trimLeft_cons_of_not_isBlank (hw c (List.mem_cons_self ..))]
  have hspan : (c :: w ++ '\n' :: s).span (!isBlank ·) = (c :: w, '\n' :: s) :=
    span_append_of_pos (fun d hd => by simp [hw d hd]) (by decide)
  unfold header?
  rw [trimLeft_cons_of_not_isBlank (by decide)]
  simp only [hstart, hspan]

theorem header?_colon {c : Char} {w : List Char} (hw : ∀ d ∈ c :: w, isWord d = true)
    (hc : isBlank c = false) (hhash : c ≠ '#') (s : List Char) :
    header? (c :: w ++ ':' :: s) = (afterLineEnd? s).map (c :: w, ·) := by
  have hspan : (c :: w ++ ':' :: s).span isWord = (c :: w, ':' :: s) :=
    span_append_of_pos hw (by decide)
  unfold header?
  rw [List.cons_append, trimLeft_cons_of_not_isBlank hc]
  split
  · next heq => exact absurd (List.head_eq_of_cons_eq heq) hhash
  · rw [← List.cons_append, hspan]
    rfl

/-- **A heading is read back**, with what stands below it. -/
theorem header?_verbatim {h : Heading} {s? : Option Section} (hh : h.Heads s?)
    (hblank : ∀ l ∈ ls, allBlank l = false) (hmem : ∀ l ∈ ls, '\n' ∉ l) :
    header? (verbatim (h.line :: ls)) = some (h.word, verbatim ls) := by
  obtain ⟨hne, hform⟩ := hh.form
  obtain ⟨c, w, hw⟩ := List.exists_cons_of_ne_nil hne
  rw [hw] at hform
  have hend := afterLineEnd?_verbatim hblank hmem
  rw [verbatim_cons, Heading.line, hw]
  cases hhashed : h.hashed with
  | true =>
    have hread := header?_hashed (fun d hd => (hform d hd).isBlank hhashed) (verbatim ls)
    rw [hend] at hread
    exact hread
  | false =>
    have hadmits := hform c (List.mem_cons_self ..)
    obtain ⟨hc, hhash⟩ := isBlank_of_isWord (hadmits.isWord hhashed) hadmits.1
    have hread := header?_colon (fun d hd => (hform d hd).isWord hhashed) hc hhash
      ('\n' :: verbatim ls)
    rw [hend] at hread
    rw [if_neg Bool.false_ne_true, List.append_assoc, List.singleton_append]
    exact hread

end Docs

end CommandSpec
