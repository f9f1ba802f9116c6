import CommandSpec.Proofs.Text.Runs
import Mathlib.Logic.Relation

/-!
# Proofs/Text/BlankLines — blank lines set paragraphs apart, and do nothing else

The paragraphs among some lines are the maximal groups of lines that are not blank, each on one line
or with its lines kept (`paragraphs_eq`, `verbatimParagraphs_eq`).  A blank line at an end, or
beside another one, parts no lines that are not parted already, so it may come and go
(`Respaced.lineGroups_eq`).
-/

namespace CommandSpec.Text

variable {ls ms : List String}

/-! ## Groups of lines -/

/-- A line without the blanks at its ends. -/
def stripped (l : String) : String := .ofList (trim l.toList)

/-- A line is blank when stripping leaves nothing of it. -/
def isBlankLine (l : String) : Bool := stripped l == ""

/-- **The groups of some lines**: their maximal runs of lines that are not blank. -/
def groups (ls : List String) : List (List String) :=
  (runs isBlankLine ls).filter (!·.all isBlankLine)

theorem isBlankLine_eq (l : String) : isBlankLine l = allBlank l.toList := by
  rw [Bool.eq_iff_iff, isBlankLine, beq_iff_eq, stripped, ← String.toList_inj, String.toList_ofList]
  exact trim_eq_nil_iff

theorem lineGroups_map_toList (ls : List String) :
    lineGroups (ls.map String.toList) = (groups ls).map (List.map String.toList) := by
  have hblank : isBlankLine = allBlank ∘ String.toList := funext isBlankLine_eq
  rw [lineGroups_eq_runs, runs_map, List.filter_map, groups, hblank]
  simp only [Function.comp_def, List.all_map]

/-- **Paragraphs on one line**: the lines of a group are stripped, and a space joins them. -/
theorem paragraphs_eq (ls : List String) :
    paragraphs ls = (groups ls).map fun g => " ".intercalate (g.map stripped) := by
  rw [paragraphs, lineGroups_map_toList, List.map_map]
  refine List.map_congr_left fun g _ => String.toList_inj.1 ?_
  rw [Function.comp_apply, String.toList_ofList, flowed, String.toList_intercalate, List.map_map,
    List.map_map]
  simp only [Function.comp_def, stripped, String.toList_ofList]
  rfl

/-- **Paragraphs with their lines kept**: each line of a group is followed by a line feed. -/
theorem verbatimParagraphs_eq (ls : List String) :
    verbatimParagraphs ls = (groups ls).map fun g => String.join (g.map (· ++ "\n")) := by
  rw [verbatimParagraphs, lineGroups_map_toList, List.map_map]
  refine List.map_congr_left fun g _ => String.toList_inj.1 ?_
  rw [Function.comp_apply, String.toList_ofList, verbatim, String.toList_join, List.flatMap_map,
    List.flatMap_map]
  simp only [String.toList_append]
  rfl

/-- **Paragraphs with their lines kept are all lines that are not blank**, one behind the other. -/
theorem join_verbatimParagraphs (ls : List String) :
    String.join (verbatimParagraphs ls) =
      String.join ((ls.filter (!isBlankLine ·)).map (· ++ "\n")) := by
  rw [verbatimParagraphs_eq, ← flatten_filter_runs, ← groups, ← String.toList_inj]
  simp only [String.toList_join, List.flatMap_map, List.flatten_eq_flatMap, List.flatMap_assoc,
    id_eq]

/-! ## Blank lines that come and go -/

/-- **A blank line is added** in front of the lines, behind them, or next to another blank line. -/
inductive AddsBlank : List String → List String → Prop
  | front {l : String} (ls : List String) (hl : isBlankLine l = true) : AddsBlank ls (l :: ls)
  | back {l : String} (ls : List String) (hl : isBlankLine l = true) : AddsBlank ls (ls ++ [l])
  | above {k l : String} (ls ms : List String) (hk : isBlankLine k = true)
      (hl : isBlankLine l = true) : AddsBlank (ls ++ k :: ms) (ls ++ l :: k :: ms)
  | below {k l : String} (ls ms : List String) (hk : isBlankLine k = true)
      (hl : isBlankLine l = true) : AddsBlank (ls ++ k :: ms) (ls ++ k :: l :: ms)

/-- **Lines are spaced anew** by adding and removing such blank lines, any number of times. -/
def Respaced : List String → List String → Prop := Relation.EqvGen AddsBlank

theorem AddsBlank.lineGroups_eq (h : AddsBlank ls ms) :
    lineGroups (ls.map String.toList) = lineGroups (ms.map String.toList) := by
  cases h with
  | front _ hl =>
    rw [isBlankLine_eq] at hl
    exact (lineGroups_blank_append (List.forall_mem_singleton.2 hl)).symm
  | back _ hl =>
    rw [isBlankLine_eq] at hl
    rw [List.map_append]
    exact (lineGroupsFrom_append_blank (List.forall_mem_singleton.2 hl)).symm
  | above ls ms hk hl =>
    rw [isBlankLine_eq] at hk hl
    simp only [List.map_append, List.map_cons]
    exact (lineGroupsFrom_cons_cons_blank hl hk hk).symm
  | below ls ms hk hl =>
    rw [isBlankLine_eq] at hk hl
    simp only [List.map_append, List.map_cons]
    exact (lineGroupsFrom_cons_cons_blank hk hl hk).symm

/-- **Spacing lines anew leaves their groups as they are.** -/
theorem Respaced.lineGroups_eq (h : Respaced ls ms) :
    lineGroups (ls.map String.toList) = lineGroups (ms.map String.toList) := by
  induction h with
  | rel ls ms h => exact h.lineGroups_eq
  | refl ls => rfl
  | symm ls ms _ ih => exact ih.symm
  | trans ls ms ns _ _ ih₁ ih₂ => exact ih₁.trans ih₂

theorem Respaced.paragraphs_eq (h : Respaced ls ms) :
    paragraphs ls = paragraphs ms ∧ verbatimParagraphs ls = verbatimParagraphs ms := by
  rw [paragraphs, paragraphs, verbatimParagraphs, verbatimParagraphs, h.lineGroups_eq]
  exact ⟨rfl, rfl⟩

/-! ## The law -/

/-- **The paragraphs among some lines are their maximal groups of lines that are not blank**: blank
lines set them apart, and how many do makes no difference.  With their lines kept, the paragraphs
are all lines that are not blank, in their order. -/
theorem paragraphs_group_lines (ls : List String) :
    verbatimParagraphs ls = (groups ls).map (fun g => String.join (g.map (· ++ "\n"))) ∧
    paragraphs ls = (groups ls).map (fun g => " ".intercalate (g.map stripped)) ∧
    (∀ ms, Respaced ls ms →
      paragraphs ls = paragraphs ms ∧ verbatimParagraphs ls = verbatimParagraphs ms) ∧
    String.join (verbatimParagraphs ls) =
      String.join ((ls.filter (!isBlankLine ·)).map (· ++ "\n")) :=
  ⟨verbatimParagraphs_eq ls, paragraphs_eq ls, fun _ => Respaced.paragraphs_eq,
    join_verbatimParagraphs ls⟩

theorem paragraphs_group_lines_spaced :
    Respaced ["", " a", "b ", "\t", " ", "c"] [" a", "b ", " ", "c"] ∧
      paragraphs [" a", "b ", " ", "c"] = ["a b", "c"] ∧
      verbatimParagraphs [" a", "b ", " ", "c"] = [" a\nb \n", "c\n"] := by
  have hmargin : AddsBlank [" a", "b ", "\t", " ", "c"] ["", " a", "b ", "\t", " ", "c"] :=
    .front _ (by decide)
  have hgap : AddsBlank [" a", "b ", " ", "c"] [" a", "b ", "\t", " ", "c"] :=
    .above [" a", "b "] ["c"] (by decide) (by decide)
  have hspaced : Respaced ["", " a", "b ", "\t", " ", "c"] [" a", "b ", " ", "c"] :=
    .symm _ _ (.trans _ _ _ (.rel _ _ hgap) (.rel _ _ hmargin))
  obtain ⟨hflowed, hkept⟩ :=
    (paragraphs_group_lines ["", " a", "b ", "\t", " ", "c"]).2.2.1 _ hspaced
  exact ⟨hspaced, hflowed.symm.trans (by decide), hkept.symm.trans (by decide)⟩

end CommandSpec.Text
