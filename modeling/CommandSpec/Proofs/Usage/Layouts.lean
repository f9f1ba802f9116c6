import CommandSpec.Proofs.Text.Relaxed
import CommandSpec.Proofs.Usage.Grammar
import CommandSpec.Proofs.Usage.Leading

/-!
# Proofs/Usage/Layouts — the two layouts of a usage paragraph are read alike

A usage line stands between backquotes, or on the first line of its paragraph.  The two differ in
what they cut off: the first line of a paragraph that goes on with nothing but blanks loses the
blanks at its end.  They make no difference, because every scan leaves them behind
(`readClause?_append`, `readArguments_append`, `readRest_append`) and the reader trims what is left;
so both layouts have the outcome of reading the line itself (`ofParagraph?_layouts`).
-/

namespace CommandSpec.Usage

open Text

variable {s g : List Char} {b : Bool}

/-! ## Blanks behind a line -/

/-- A text that is cut at a character is cut there, whatever follows without it. -/
theorem cutAt_append {stop : Char} (hg : stop ∉ g) (s : List Char) :
    cutAt stop (s ++ g) = (cutAt stop s).map fun r => (r.1, r.2 ++ g) := by
  induction s with
  | nil => exact cutAt_eq_none_iff.2 hg
  | cons c cs ih =>
    rw [List.cons_append, cutAt, cutAt, ih]
    split
    · rfl
    · rw [Option.map_map, Option.map_map]
      rfl

/-- Blanks at the end are left behind a word. -/
theorem takeWord_append_blank (hg : allBlank g = true) (s : List Char) :
    takeWord (s ++ g) = ((takeWord s).1, (takeWord s).2 ++ g) := by
  obtain ⟨hs, hword, hend⟩ := takeWord_spec s
  conv_lhs => rw [hs, List.append_assoc]
  exact takeWord_append hword (hend.append_blank hg)

section Behind

variable (hg : allBlank g = true)
include hg

/-- Blanks at the end are trimmed with a blank text, and are left behind any other. -/
theorem trimLeft_append_cases (s : List Char) :
    (trimLeft s = [] ∧ trimLeft (s ++ g) = []) ∨
      ∃ c cs, trimLeft s = c :: cs ∧ trimLeft (s ++ g) = c :: (cs ++ g) := by
  cases hs : allBlank s with
  | true =>
    have hsg : allBlank (s ++ g) = true := by rw [allBlank_append, hs, hg]; rfl
    exact .inl ⟨trimLeft_eq_nil_iff.2 hs, trimLeft_eq_nil_iff.2 hsg⟩
  | false =>
    obtain ⟨c, cs, hleft⟩ := List.exists_cons_of_ne_nil fun h => by
      rw [trimLeft_eq_nil_iff.1 h] at hs
      cases hs
    exact .inr ⟨c, cs, hleft, by rw [trimLeft_append_of_not_allBlank hs, hleft, List.cons_append]⟩

theorem readArgument?_append (b : Bool) (s : List Char) :
    readArgument? (opening b) (closing b) (s ++ g) =
      (readArgument? (opening b) (closing b) s).map fun r => (r.1, r.2 ++ g) := by
  rw [readArgument?, readArgument?]
  rcases trimLeft_append_cases hg s with ⟨hs, hsg⟩ | ⟨c, cs, hs, hsg⟩
  · rw [hs, hsg]
    rfl
  · have hclosing : closing b ∉ g := not_mem_of_allBlank hg (isBlank_closing b)
    rw [hs, hsg]
    simp only [cutAt_append hclosing]
    split
    · cases cutAt (closing b) cs with
      | none => rfl
      | some r =>
        simp only [Option.map_some]
        split <;> rfl
    · rfl

/-- **Blanks at the end are left behind the plain arguments.** -/
theorem readArguments_append (b : Bool) (s : List Char) :
    readArguments (opening b) (closing b) (s ++ g) =
      ((readArguments (opening b) (closing b) s).1,
        (readArguments (opening b) (closing b) s).2 ++ g) := by
  have happ := readArgument?_append hg b s
  cases h : readArgument? (opening b) (closing b) s with
  | none =>
    rw [h, Option.map_none] at happ
    rw [readArguments_of_none h, readArguments_of_none happ]
  | some r =>
    have : r.2.length < s.length := length_of_readArgument? h
    rw [h, Option.map_some] at happ
    rw [readArguments_of_some h, readArguments_of_some happ, readArguments_append b r.2]
termination_by s.length

theorem restBefore?_append (b : Bool) (s : List Char) :
    restBefore? (closing b) b (s ++ g) =
      (restBefore? (closing b) b s).map fun r => (r.1, r.2 ++ g) := by
  rw [restBefore?, restBefore?, cutAt_append (not_mem_of_allBlank hg (isBlank_closing b))]
  cases cutAt (closing b) s with
  | none => rfl
  | some r =>
    simp only [Option.map_some, Option.map_map]
    rfl

/-- **Blanks at the end are left behind the rest argument.** -/
theorem readRest_append (s : List Char) :
    readRest (s ++ g) = ((readRest s).1, (readRest s).2 ++ g) := by
  by_cases h : ∃ b cs, trimLeft s = opening b :: cs
  · obtain ⟨b, cs, hs⟩ := h
    have hsg : trimLeft (s ++ g) = opening b :: (cs ++ g) := by
      rcases trimLeft_append_cases hg s with ⟨hnil, -⟩ | ⟨c, cs', hs', hsg⟩
      · cases hs.symm.trans hnil
      · cases hs.symm.trans hs'
        exact hsg
    rw [readRest_of_trimLeft hs, readRest_of_trimLeft hsg, restBefore?_append hg]
    cases restBefore? (closing b) b cs <;> rfl
  · have hsg : ¬∃ b cs, trimLeft (s ++ g) = opening b :: cs := by
      rintro ⟨b, cs, hb⟩
      rcases trimLeft_append_cases hg s with ⟨-, hnil⟩ | ⟨c, cs', hs', hsg⟩
      · cases hb.symm.trans hnil
      · cases hb.symm.trans hsg
        exact h ⟨b, cs', hs'⟩
    rw [readRest_of_not_opening h, readRest_of_not_opening hsg]

theorem blankClause?_append (hs : allBlank s = false) :
    blankClause? (s ++ g) = (blankClause? s).map fun r => (r.1, r.2 ++ g) := by
  have htake : (s ++ g).takeWhile isBlank = s.takeWhile isBlank := by
    obtain ⟨w, hw, hsw⟩ := exists_blank_append_trimLeft s
    have hleft : trimLeft (trimLeft s ++ g) = trimLeft s ++ g := by
      rw [trimLeft_append_of_not_allBlank (allBlank_trimLeft.trans hs), trimLeft_trimLeft]
    calc (s ++ g).takeWhile isBlank = (w ++ (trimLeft s ++ g)).takeWhile isBlank := by
          rw [← List.append_assoc, ← hsw]
      _ = (w ++ trimLeft s).takeWhile isBlank := by
          rw [takeWhile_isBlank_append hw hleft, takeWhile_isBlank_append hw (trimLeft_trimLeft s)]
      _ = s.takeWhile isBlank := by rw [← hsw]
  rw [blankClause?, blankClause?, htake, trimLeft_append_of_not_allBlank hs,
    takeWord_append_blank hg, Option.map_map]
  rfl

/-- **Blanks at the end are left behind the clause** of a line that is not blank. -/
theorem readClause?_append (hs : allBlank s = false) :
    readClause? (s ++ g) = (readClause? s).map fun r => (r.1, r.2 ++ g) := by
  rcases trimLeft_append_cases hg s with ⟨hnil, -⟩ | ⟨c, cs, hleft, hsg⟩
  · rw [trimLeft_eq_nil_iff.1 hnil] at hs
    cases hs
  · by_cases hp : c = '('
    · subst hp
      have happ := cutAt_append (not_mem_of_allBlank hg (c := ')') rfl) cs
      cases hcut : cutAt ')' cs with
      | none =>
        rw [hcut, Option.map_none] at happ
        rw [readClause?_unclosed hsg happ, readClause?_unclosed hleft hcut,
          blankClause?_append hg hs]
      | some r =>
        rw [hcut, Option.map_some] at happ
        rw [readClause?_alternatives hsg happ, readClause?_alternatives hleft hcut]
        rfl
    · rw [readClause?_bare hsg hp, readClause?_bare hleft hp, ← List.cons_append,
        takeWord_append_blank hg]
      rfl

/-! ## The outcome of a line with blanks behind it -/

theorem gathered_append (clause : Clause) (after : List Char) (desc : String) :
    gathered clause (after ++ g) desc =
      ((gathered clause after desc).1, (gathered clause after desc).2 ++ g) := by
  have hrequired := readArguments_append hg true after
  have hoptional (s : List Char) := readArguments_append hg false s
  rw [opening, closing] at hrequired hoptional
  simp only [if_true, Bool.false_eq_true, if_false] at hrequired hoptional
  simp only [gathered, hrequired, hoptional, readRest_append hg]

theorem judged_append (clause : Clause) (u : Usage) (left : List Char) :
    judged clause (u, left ++ g) = judged clause (u, left) := by
  have hblank : allBlank (left ++ g) = allBlank left := by
    rw [allBlank_append, hg, Bool.and_true]
  simp only [judged, hblank, trim_append_of_allBlank hg]

end Behind

/-- **Blanks behind a line make no difference**, unless the line is blank: it is the same usage, or
refused for the same fault. -/
theorem ofLine?_append_blank {line w : String} (hline : allBlank line.toList = false)
    (hw : allBlank w.toList = true) (desc : String) :
    ofLine? (line ++ w) desc = ofLine? line desc := by
  have happ := readClause?_append hw hline
  rw [← String.toList_append] at happ
  cases hclause : readClause? line.toList with
  | none =>
    rw [hclause, Option.map_none] at happ
    rw [ofLine?, ofLine?, happ, hclause]
  | some r =>
    rw [hclause, Option.map_some] at happ
    rw [ofLine?_eq_judged happ, ofLine?_eq_judged hclause, gathered_append hw, judged_append hw]

/-! ## The two layouts -/

/-- A usage line between backquotes, and the text behind it. -/
def quotedLayout (line text : String) : String := "\x60" ++ line ++ "\x60 " ++ text

/-- A usage line on the first line, and the text below it. -/
def plainLayout (line text : String) : String := line ++ "\n" ++ text

section Layouts

variable {line text : List Char}

/-- A line between backquotes is cut out as it is. -/
theorem splitParagraph_quoted (hline : '\x60' ∉ line) (htext : (trimLeft text).head? ≠ some ':') :
    splitParagraph ('\x60' :: (line ++ '\x60' :: text)) = (line, trimLeft text) := by
  rw [splitParagraph, trimLeft_cons_of_not_isBlank rfl]
  simp only [cutAt_append_cons hline]
  split
  · next heq => exact absurd (by rw [heq]; rfl) htext
  · rfl

/-- A line that opens with no blank and no backquote is cut off below it, and loses the blanks at
its end if nothing but blanks is below. -/
theorem splitParagraph_plain {c : Char} {cs : List Char} (hc : isBlank c = false)
    (hquote : c ≠ '\x60') (hline : '\n' ∉ c :: cs) (text : List Char) :
    splitParagraph (c :: cs ++ '\n' :: text) =
      if allBlank text then (trimRight (c :: cs), []) else (c :: cs, trimRight text) := by
  have hleft (s : List Char) : trimLeft (c :: s) = c :: s := trimLeft_cons_of_not_isBlank hc
  have hplain {line : List Char} {more : List (List Char)}
      (h : splitAt '\n' (trim (c :: cs ++ '\n' :: text)) = line :: more) :
      splitParagraph (c :: cs ++ '\n' :: text) = (line, unlines more) := by
    rw [List.cons_append] at h
    rw [splitParagraph, List.cons_append, hleft]
    split
    · next heq => exact absurd (List.cons.inj heq).1 hquote
    · rw [h]
  split_ifs with htext
  · have hgap : allBlank ('\n' :: text) = true := by rw [allBlank_cons, htext]; rfl
    have hmem : '\n' ∉ trim (c :: cs) := fun h => hline (mem_of_mem_trim h)
    rw [hplain (by rw [trim_append_of_allBlank hgap, splitAt_of_not_mem hmem]), trim, hleft]
    rfl
  · have hbelow : allBlank text = false := by simpa using htext
    have htrim : trim (c :: cs ++ '\n' :: text) = c :: cs ++ '\n' :: trimRight text := by
      have hend : allBlank ('\n' :: text) = false := by
        rw [allBlank_cons, hbelow, Bool.and_false]
      have hright : trimRight ('\n' :: text) = '\n' :: trimRight text :=
        trimRight_append_of_not_allBlank (s := ['\n']) hbelow
      rw [trim, List.cons_append, hleft, ← List.cons_append,
        trimRight_append_of_not_allBlank hend, hright]
    rw [hplain (by rw [htrim, splitAt_append_cons hline])]
    exact congrArg (Prod.mk _) (intercalate_splitAt '\n' (trimRight text))

end Layouts

/-- **A line between backquotes** is read with the text behind it as its description. -/
theorem ofParagraph?_quotedLayout {line text : String} (hline : '\x60' ∉ line.toList)
    (htext : (trimLeft text.toList).head? ≠ some ':') :
    ofParagraph? (quotedLayout line text) = ofLine? line (relaxed text) := by
  have hchars : (quotedLayout line text).toList =
      '\x60' :: (line.toList ++ '\x60' :: ' ' :: text.toList) := by
    simp [quotedLayout]
  rw [ofParagraph?, hchars, splitParagraph_quoted hline (by rwa [trimLeft_cons_of_isBlank rfl])]
  simp only [trimLeft_cons_of_isBlank (c := ' ') rfl, relaxedChars_trimLeft, String.ofList_toList]
  rfl

/-- **A line on the first line** is read with the text below it as its description. -/
theorem ofParagraph?_plainLayout {line : String}
    (hopen : ∃ c ∈ line.toList.head?, isBlank c = false) (hquote : '\x60' ∉ line.toList)
    (hline : '\n' ∉ line.toList) (text : String) :
    ofParagraph? (plainLayout line text) = ofLine? line (relaxed text) := by
  obtain ⟨c, hc, hblank⟩ := hopen
  obtain ⟨cs, hcs⟩ := List.head?_eq_some_iff.1 hc
  have hchars : (plainLayout line text).toList = c :: cs ++ '\n' :: text.toList := by
    simp [plainLayout, hcs]
  have hnotBlank : allBlank line.toList = false := by rw [hcs, allBlank_cons, hblank]; rfl
  rw [hcs] at hquote hline
  rw [ofParagraph?, hchars, splitParagraph_plain hblank
    (fun h => hquote (h ▸ List.mem_cons_self)) hline, ← hcs]
  split_ifs with htext
  · -- the blanks that the line has lost make no difference
    obtain ⟨g, hg, hline⟩ := exists_trimRight_append_blank line.toList
    have hwhole : line = .ofList (trimRight line.toList) ++ .ofList g := by
      rw [← String.ofList_append, ← hline, String.ofList_toList]
    have hkept : allBlank (trimRight line.toList) = false := by
      rwa [hline, allBlank_append, hg, Bool.and_true] at hnotBlank
    have hdesc : relaxed text = .ofList (relaxedChars []) := by
      rw [relaxed, relaxedChars_of_allBlank htext, relaxedChars_of_allBlank allBlank_nil]
    conv_rhs => rw [hwhole, ofLine?_append_blank (by rwa [String.toList_ofList])
      (by rwa [String.toList_ofList]), hdesc]
  · simp only [relaxedChars_trimRight, String.ofList_toList]
    rfl

/-! ## The law -/

/-- **The two layouts of a usage paragraph are read alike**: as the line by itself, with the text on
one line as its description.  So both come to one usage, or are refused for one fault. -/
theorem ofParagraph?_layouts (line text : String)
    (hopen : ∃ c ∈ line.toList.head?, isBlank c = false) (hquote : '\x60' ∉ line.toList)
    (hline : '\n' ∉ line.toList) (htext : (trimLeft text.toList).head? ≠ some ':') :
    ofParagraph? (quotedLayout line text) = ofParagraph? (plainLayout line text) ∧
      ofParagraph? (plainLayout line text) = ofLine? line (relaxed text) := by
  have hplain := ofParagraph?_plainLayout hopen hquote hline text
  exact ⟨(ofParagraph?_quotedLayout hquote htext).trans hplain.symm, hplain⟩

/-- A line with blanks at its end and nothing but blanks for its text, and a line that is refused,
with a text of two lines. -/
theorem ofParagraph?_layouts_push :
    (ofParagraph? "\x60(push|p) <branch> \t\x60 \n \n" =
        .ok ⟨["push", "p"], ["branch"], [], none, ""⟩ ∧
      ofParagraph? "(push|p) <branch> \t\n\n \n" =
        .ok ⟨["push", "p"], ["branch"], [], none, ""⟩) ∧
    ofParagraph? "\x60push b > \x60  Push\n  it: now." = .error (.trailing "b >") ∧
      ofParagraph? "push b > \n Push\n  it: now." = .error (.trailing "b >") := by
  have hread := ofParagraph?_layouts "(push|p) <branch> \t" "\n \n" ⟨'(', rfl, rfl⟩ (by decide)
    (by decide) (by decide)
  have hrefused := ofParagraph?_layouts "push b > " " Push\n  it: now." ⟨'p', rfl, rfl⟩ (by decide)
    (by decide) (by decide)
  have hok : ofLine? "(push|p) <branch> \t" (relaxed "\n \n") =
      .ok ⟨["push", "p"], ["branch"], [], none, ""⟩ := by decide +kernel
  have herror : ofLine? "push b > " (relaxed " Push\n  it: now.") = .error (.trailing "b >") := by
    decide +kernel
  exact ⟨⟨hread.1.trans (hread.2.trans hok), hread.2.trans hok⟩,
    hrefused.1.trans (hrefused.2.trans herror), hrefused.2.trans herror⟩

end CommandSpec.Usage
