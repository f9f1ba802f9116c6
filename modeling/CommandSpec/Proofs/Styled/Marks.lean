import CommandSpec.Proofs.Styled.Fault
import Mathlib.Data.List.Forall2

/-!
# Proofs/Styled/Marks — the spans of a text, read in order

The spans of a text **cover** some marks when they lie inside the text, one behind the other, and
what stands below them, read in order with their styles, are these marks (`Covers`).  Covers of two
texts are put together by moving the second one (`Covers.append`), so what is assembled or joined of
parts carries the marks of its parts in their order (`marks_assemble`, `marks_join`).
-/

namespace CommandSpec

/-- What a span covers of a text. -/
def Span.covered (s : Span) (plain : String) : String :=
  .ofList ((plain.toList.take s.stop).drop s.start)

/-- What is marked: a style, and the characters that have it. -/
abbrev Mark := String × String

/-- **The spans cover the marks**: they lie inside the text, each behind the one before it, and the
marks are what they cover, in their order. -/
structure Covers (plain : String) (spans : List Span) (marks : List Mark) : Prop where
  inside : ∀ s ∈ spans, s.start < s.stop ∧ s.stop ≤ plain.length
  apart : spans.Pairwise fun s t => s.stop ≤ t.start
  covered : spans.map (fun s => (s.style, s.covered plain)) = marks

namespace Covers

variable {p q style : String} {a b : List Span} {ms ns : List Mark}

theorem nil (p : String) : Covers p [] [] := ⟨List.forall_mem_nil _, .nil, rfl⟩

/-- A span over a whole text. -/
theorem whole (style : String) (hp : p ≠ "") : Covers p [⟨0, p.length, style⟩] [(style, p)] where
  inside := by
    refine List.forall_mem_singleton.mpr ⟨?_, Nat.le_refl _⟩
    rw [← String.length_toList]
    exact List.length_pos_of_ne_nil (mt String.toList_eq_nil_iff.mp hp)
  apart := List.pairwise_singleton _ _
  covered := by
    rw [List.map_singleton, Span.covered, ← String.length_toList, List.take_length, List.drop_zero,
      String.ofList_toList]

theorem covered_append_of_le {s : Span} (h : s.stop ≤ p.length) (q : String) :
    s.covered (p ++ q) = s.covered p := by
  rw [← String.length_toList] at h
  rw [Span.covered, Span.covered, String.toList_append, List.take_append_of_le_length h]

theorem covered_shift (p q : String) (s : Span) : (s.shift p.length).covered (p ++ q) =
    s.covered q := by
  rw [Span.covered, Span.covered, Span.shift, String.toList_append, ← String.length_toList,
    Nat.add_comm s.stop, Nat.add_comm s.start, List.take_length_add_append,
    List.drop_length_add_append]

/-- **Covers are put together** by moving the second one behind the first text. -/
theorem append (hp : Covers p a ms) (hq : Covers q b ns) :
    Covers (p ++ q) (a ++ b.map (.shift p.length)) (ms ++ ns) where
  inside := by
    have hlength : (p ++ q).length = p.length + q.length := String.length_append p q
    refine List.forall_mem_append.mpr ⟨fun s hs => ?_, List.forall_mem_map.mpr fun s hs => ?_⟩
    · have hs := hp.inside s hs
      omega
    · have hs := hq.inside s hs
      simp only [Span.shift]
      omega
  apart := by
    refine List.pairwise_append.mpr ⟨hp.apart, ?_, fun s hs t ht => ?_⟩
    · exact List.pairwise_map.mpr (hq.apart.imp fun h => Nat.add_le_add_right h _)
    · obtain ⟨t, -, rfl⟩ := List.mem_map.mp ht
      exact Nat.le_trans (hp.inside s hs).2 (Nat.le_add_left _ _)
  covered := by
    rw [List.map_append, List.map_map, ← hp.covered, ← hq.covered]
    refine congrArg₂ (· ++ ·) (List.map_congr_left fun s hs => ?_)
      (List.map_congr_left fun s _ => ?_)
    · rw [covered_append_of_le (hp.inside s hs).2]
    · exact congrArg (s.style, ·) (covered_shift p q s)

/-- A text without characters has no spans. -/
theorem eq_nil (h : Covers "" a ms) : a = [] :=
  List.eq_nil_iff_forall_not_mem.mpr fun s hs =>
    absurd (Nat.lt_of_lt_of_le (h.inside s hs).1 (h.inside s hs).2) (Nat.not_lt_zero _)

end Covers

namespace StyledText

variable {t u sep : StyledText} {style s : String} {ms ns : List Mark}
  {parts : List StyledText} {mss : List (List Mark)}

/-- **A text carries marks**: its spans cover them, and it has no style besides. -/
structure Marks (t : StyledText) (ms : List Mark) : Prop where
  style_eq : t.style = ""
  covers : Covers t.plain t.spans ms

/-- **A part brings marks** into the text that it becomes a part of. -/
def Brings (t : StyledText) (ms : List Mark) : Prop := Covers t.plain t.partSpans ms

theorem Marks.brings (h : t.Marks ms) : t.Brings ms := by
  rw [Brings, partSpans, h.style_eq]
  split
  · next hplain =>
    have hspans := h.covers
    rw [hplain] at hspans ⊢
    rwa [hspans.eq_nil] at hspans
  · exact h.covers

/-- A part of the kind of a key brings itself. -/
theorem brings_of (hstyle : style ≠ "") (hs : s ≠ "") (hfits : Fits s) :
    (of style s).Brings [(style, s)] := by
  have hplain := plain_of style hfits
  rw [Brings, partSpans, if_neg (by rwa [hplain]), hplain]
  rw [length, hplain]
  show Covers s ((if style = "" then [] else [⟨0, s.length, style⟩]) ++ []) [(style, s)]
  rw [if_neg hstyle, List.append_nil]
  exact .whole style hs

theorem marks_unstyled (s : String) : (unstyled s).Marks [] := ⟨rfl, .nil _⟩

theorem brings_unstyled (s : String) : (unstyled s).Brings [] := (marks_unstyled s).brings

theorem Marks.append (ht : t.Marks ms) (hu : u.Brings ns) : (t.append u).Marks (ms ++ ns) :=
  ⟨ht.style_eq, ht.covers.append hu⟩

theorem marks_foldl_append (ht : t.Marks ms) (h : List.Forall₂ Brings parts mss) :
    (parts.foldl append t).Marks (ms ++ mss.flatten) := by
  induction h generalizing t ms with
  | nil =>
    rw [List.flatten_nil, List.append_nil]
    exact ht
  | cons hp _ ih =>
    rw [List.foldl_cons, List.flatten_cons, ← List.append_assoc]
    exact ih (ht.append hp)

/-- **What is assembled carries the marks of its parts**, in their order. -/
theorem marks_assemble (mss : List (List Mark)) (h : List.Forall₂ Brings parts mss) :
    (assemble parts).Marks mss.flatten :=
  marks_foldl_append (t := ⟨"", "", []⟩) ⟨rfl, .nil ""⟩ h

/-- A last part brings its marks behind the others. -/
theorem marks_assemble_concat (mss : List (List Mark)) (h : List.Forall₂ Brings parts mss)
    (hu : u.Brings ms) : (assemble (parts ++ [u])).Marks (mss.flatten ++ ms) := by
  rw [assemble, List.foldl_append]
  exact (marks_assemble mss h).append hu

theorem marks_foldl_intersperse (hsep : sep.Marks []) (ht : t.Marks ms)
    (h : List.Forall₂ Brings parts mss) :
    ((parts.intersperse sep).foldl append t).Marks (ms ++ mss.flatten) := by
  induction h generalizing t ms with
  | nil => exact marks_foldl_append ht .nil
  | cons hp hps ih =>
    cases hps with
    | nil => exact marks_foldl_append ht (.cons hp .nil)
    | cons hq hqs =>
      have hmore := ih ((ht.append hp).append hsep.brings)
      rwa [List.append_nil, List.append_assoc] at hmore

/-- **What is joined carries the marks of its parts**; what stands between them brings none. -/
theorem marks_join (hsep : sep.Marks []) (h : List.Forall₂ Brings parts mss) :
    (join sep parts).Marks mss.flatten := by
  have hstart : Marks ⟨"", sep.style, []⟩ [] := ⟨hsep.style_eq, .nil ""⟩
  rw [join]
  split
  · exact marks_foldl_append hstart h
  · exact marks_foldl_intersperse hsep hstart h

end StyledText

end CommandSpec
