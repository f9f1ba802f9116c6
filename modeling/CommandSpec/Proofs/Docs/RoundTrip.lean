import CommandSpec.Proofs.Docs.Entries
import CommandSpec.Proofs.Docs.Header
import CommandSpec.Proofs.Docs.Read
import CommandSpec.Proofs.Usage.Layouts

/-!
# Proofs/Docs/RoundTrip — documentation that is printed is the documentation that is read

A page is cut into its opening and the paragraphs of its sections (`paragraphsOf_text`).  Each
section adds to what has been read (`readSection_paragraph`), in whatever order they stand, and so
the whole page documents what was written in it (`Page.ofText?_text`).
-/

namespace CommandSpec.Docs

open Text Logged

variable {usage : Usage} {p : Page} {s : Passage} {ps : List Passage}

/-! ## The paragraphs of a page -/

theorem exists_line_eq_cons {h : Heading} {s? : Option Section} (hh : h.Heads s?) :
    ∃ c cs, h.line = c :: cs ∧ isBlank c = false := by
  obtain ⟨hne, hform⟩ := hh.form
  obtain ⟨c, cs, hw⟩ := List.exists_cons_of_ne_nil hne
  rw [hw] at hform
  have hadmits := hform c (List.mem_cons_self ..)
  rw [Heading.line, hw]
  cases hhashed : h.hashed with
  | true => exact ⟨'#', _, rfl, by decide⟩
  | false =>
    exact ⟨c, _, rfl, (isBlank_of_isWord (hadmits.isWord hhashed) hadmits.1).1⟩

namespace Block

/-- No line of a block is blank. -/
theorem Fits.allBlank {b : Block} (h : b.Fits usage) : ∀ l ∈ b.lines, allBlank l = false := by
  cases b with
  | summary ls => exact h
  | other ls => exact h
  | examples ls => exact h.1
  | arguments names written =>
    intro l hl
    obtain ⟨n, hn, hl⟩ := List.mem_flatMap.1 hl
    rcases List.mem_cons.1 hl with rfl | hl
    · rw [allBlank_append, allBlank_cons, show isBlank ':' = false by decide, Bool.false_and,
        Bool.and_false]
    · exact (h.2 n hn l hl).1

end Block

namespace Passage

theorem allBlank_heading (h : s.IsSound usage) : allBlank s.heading.line = false := by
  obtain ⟨c, cs, hline, hc⟩ := exists_line_eq_cons h.heading
  rw [hline, allBlank_cons, hc, Bool.false_and]

theorem allBlank_paragraph (h : s.IsSound usage) : ∀ l ∈ s.paragraph, allBlank l = false :=
  List.forall_mem_cons.2 ⟨allBlank_heading h, h.block.allBlank⟩

theorem indentation_heading (h : s.IsSound usage) : indentation s.heading.line = 0 := by
  obtain ⟨c, cs, hline, hc⟩ := exists_line_eq_cons h.heading
  rw [hline, indentation, List.takeWhile_cons_of_neg (by simp [hc]), List.length_nil]

/-- **Sections are paragraphs**, one each. -/
theorem lineGroupsFrom_lines {g ending : List (List Char)} (hg : g ≠ [])
    (hps : ∀ s ∈ ps, s.IsSound usage) (hending : ∀ l ∈ ending, allBlank l = true) :
    lineGroupsFrom g (ps.flatMap lines ++ ending) = g :: ps.map paragraph := by
  induction ps generalizing g with
  | nil =>
    have hnil : lineGroupsFrom g ([] ++ ending) = lineGroupsFrom g [] :=
      lineGroupsFrom_append_blank hending
    rw [List.flatMap_nil, hnil, lineGroupsFrom, flushGroup, if_neg (by simpa using hg)]
    rfl
  | cons s ps ih =>
    obtain ⟨hs, hps⟩ := List.forall_mem_cons.1 hps
    have hne : s.paragraph ≠ [] := List.cons_ne_nil _ _
    rw [List.flatMap_cons, lines, List.append_assoc, List.append_assoc,
      lineGroupsFrom_blank_append hs.gap_ne hs.gap, lineGroups,
      lineGroupsFrom_append (allBlank_paragraph hs), List.nil_append,
      ih hne hps, flushGroup, if_neg (by simpa using hg)]
    rfl

end Passage

namespace Page

theorem tellMargin_below (h : p.IsSound usage) : TellMargin p.below := by
  cases hps : p.passages with
  | nil =>
    left
    rw [below, hps]
    exact h.ending
  | cons s ps =>
    have hs := h.passages s (hps ▸ List.mem_cons_self ..)
    refine .inr ⟨s.heading.line, ?_, s.allBlank_heading hs, s.indentation_heading hs⟩
    rw [below, hps]
    simp [Passage.lines, Passage.paragraph]

/-- **A page is cut into its opening and its sections.** -/
theorem paragraphsOf_text (h : p.IsSound usage) (margin : Nat) :
    paragraphsOf (p.text margin) =
      verbatim [p.opening] :: p.passages.map fun s => verbatim s.paragraph := by
  have hopening : trimLeft p.opening = p.opening := trimLeft_cons_of_not_isBlank (by decide)
  have hblank : allBlank p.opening = false := by
    rw [opening, List.cons_append, allBlank_cons, show isBlank '\x60' = false by decide,
      Bool.false_and]
  rw [paragraphsOf, text, String.toList_ofList,
    lineGroups_cleaned hopening (tellMargin_below h) h.plain, lineGroups,
    lineGroupsFrom_cons hblank, below, List.nil_append,
    Passage.lineGroupsFrom_lines (List.cons_ne_nil _ _) h.passages h.ending, List.map_cons,
    List.map_map]
  rfl

end Page

/-! ## Reading one section -/

/-- Whether a section has been read. -/
def Sections.holds (sections : Sections) : Section → Bool
  | .summary => sections.summary.isSome
  | .arguments => sections.args.isSome
  | .examples => sections.examples.isSome

namespace Block

/-- What has been read once a block is read, too. -/
def addTo (usage : Usage) (sections : Sections) (b : Block) : Sections :=
  ⟨sections.summary.or b.summary?, sections.args.or (b.args? usage),
    sections.examples.or b.examples?⟩

theorem holds_addTo (usage : Usage) (sections : Sections) (b : Block) (t : Section) :
    (b.addTo usage sections).holds t = (sections.holds t || b.section? = some t) := by
  cases b <;> cases t <;> simp [addTo, Sections.holds, summary?, args?, examples?, section?]

section Free

variable {sections : Sections}

theorem addTo_summary {ls : List (List Char)} (h : sections.summary = none) :
    (summary ls).addTo usage sections =
      { sections with summary := some (.ofList (flowed ls)) } := by
  simp only [addTo, h, summary?, args?, examples?, Option.none_or, Option.or_none]

theorem addTo_arguments {names : List String} {written : String → Remark}
    (h : sections.args = none) : (arguments names written).addTo usage sections =
      { sections with
        args := some (usage.arguments.map fun a =>
          ⟨a.name, a.isRequired, (written a.name).text⟩) } := by
  simp only [addTo, h, summary?, args?, examples?, Option.none_or, Option.or_none]

theorem addTo_examples {ls : List (List Char)} (h : sections.examples = none) :
    (examples ls).addTo usage sections =
      { sections with examples := some (.ofList (unlines ls)) } := by
  simp only [addTo, h, summary?, args?, examples?, Option.none_or, Option.or_none]

theorem addTo_other (ls : List (List Char)) : (other ls).addTo usage sections = sections := by
  simp only [addTo, summary?, args?, examples?, Option.or_none]

end Free

end Block

/-- A block is read below the header of its section, unless that has been read before. -/
theorem readSection_block {b : Block} (hb : b.Fits usage) (hplain : ∀ l ∈ b.lines, IsPlain l)
    (hnames : ∀ n ∈ usage.names, IsEntryName n.toList) (hnodup : usage.names.Nodup)
    {paragraph word : List Char} (hheader : header? paragraph = some (word, verbatim b.lines))
    (hsection : Section.ofHeader? (lower (.ofList word)) = b.section?) {sections : Sections}
    (hfree : ∀ t, b.section? = some t → sections.holds t = false) (log : List Event) :
    ∃ log', readSection usage sections paragraph log = .ok (b.addTo usage sections) log' := by
  cases b with
  | summary ls =>
    have hnone : sections.summary = none := by simpa [Sections.holds] using hfree .summary rfl
    have htext : relaxedChars (verbatim (Block.summary ls).lines) = flowed ls :=
      relaxedChars_verbatim_of_not_blank (fun l hl => (hplain l hl).not_mem) hb
    refine ⟨log, ?_⟩
    rw [Block.addTo_summary hnone, readSection_summary hheader hsection hnone, htext]
  | arguments names written =>
    have hnone : sections.args = none := by simpa [Sections.holds] using hfree .arguments rfl
    have hargs := readArguments_verbatim hb.1 hnodup
      (fun n hn => hnames n (hb.1.mem_iff.1 hn)) hb.2
      fun n hn l hl => hplain l (List.mem_flatMap.2 ⟨n, hn, hl⟩)
    refine ⟨log, ?_⟩
    rw [Block.addTo_arguments hnone]
    exact readSection_arguments hheader hsection hnone hargs log
  | examples ls =>
    have hnone : sections.examples = none := by simpa [Sections.holds] using hfree .examples rfl
    obtain ⟨hblank, l, hl, hstart⟩ := hb
    have htext : trimLineFeeds (dedented (verbatim (Block.examples ls).lines)) = unlines ls :=
      trimLineFeeds_dedented hplain hblank hl hstart
    refine ⟨log, ?_⟩
    rw [Block.addTo_examples hnone, readSection_examples hheader hsection hnone, htext]
  | other ls =>
    rw [Block.addTo_other]
    exact ⟨_, readSection_ignored hheader hsection log⟩

/-- **A paragraph that is printed is the section that is read**, unless its section has been read
before. -/
theorem readSection_paragraph (hs : s.IsSound usage) (hplain : ∀ l ∈ s.block.lines, IsPlain l)
    (hnames : ∀ n ∈ usage.names, IsEntryName n.toList) (hnodup : usage.names.Nodup)
    {sections : Sections} (hfree : ∀ t, s.section? = some t → sections.holds t = false)
    (log : List Event) : ∃ log', readSection usage sections (verbatim s.paragraph) log =
      .ok (s.block.addTo usage sections) log' := by
  have hheader : header? (verbatim s.paragraph) = some (s.heading.word, verbatim s.block.lines) :=
    header?_verbatim hs.heading hs.block.allBlank fun l hl => (hplain l hl).not_mem
  have hsection : Section.ofHeader? (lower (.ofList s.heading.word)) = s.block.section? :=
    Heading.ofHeader?_lower hs.heading
  exact readSection_block hs.block hplain hnames hnodup hheader hsection hfree log

/-! ## Reading all sections -/

/-- **Sections are read one after another**, in whatever order they stand. -/
theorem foldlM_readSection (hps : ∀ s ∈ ps, s.IsSound usage)
    (hplain : ∀ s ∈ ps, ∀ l ∈ s.block.lines, IsPlain l)
    (hnames : ∀ n ∈ usage.names, IsEntryName n.toList) (hnodup : usage.names.Nodup)
    (honce : (ps.filterMap Passage.section?).Nodup) (sections : Sections)
    (hfree : ∀ t ∈ ps.filterMap Passage.section?, sections.holds t = false) (log : List Event) :
    ∃ log', (ps.map fun s => verbatim s.paragraph).foldlM (readSection usage) sections log =
      .ok (ps.foldl (fun sections s => s.block.addTo usage sections) sections) log' := by
  induction ps generalizing sections log with
  | nil => exact ⟨log, rfl⟩
  | cons s ps ih =>
    obtain ⟨hs, hps⟩ := List.forall_mem_cons.1 hps
    obtain ⟨hpl, hplain⟩ := List.forall_mem_cons.1 hplain
    have hsub : (ps.filterMap Passage.section?).Sublist ((s :: ps).filterMap Passage.section?) :=
      (List.sublist_cons_self s ps).filterMap _
    have hfree₀ : ∀ t, s.section? = some t → sections.holds t = false := fun t ht =>
      hfree t (List.mem_filterMap.2 ⟨s, List.mem_cons_self .., ht⟩)
    obtain ⟨log₁, hread⟩ := readSection_paragraph hs hpl hnames hnodup hfree₀ log
    have hmore : ∀ t ∈ ps.filterMap Passage.section?,
        (s.block.addTo usage sections).holds t = false := by
      intro t ht
      rw [Block.holds_addTo, hfree t (hsub.subset ht), Bool.false_or]
      refine decide_eq_false fun hst => ?_
      rw [List.filterMap_cons_some (show s.section? = some t from hst), List.nodup_cons] at honce
      exact honce.1 ht
    obtain ⟨log', hrest⟩ := ih hps hplain (honce.sublist hsub) _ hmore log₁
    exact ⟨log', bind_eq_ok_iff.2 ⟨_, log₁, hread, hrest⟩⟩

theorem findSome?_cons_or {α β : Type} (f : α → Option β) (a : α) (l : List α) :
    (a :: l).findSome? f = (f a).or (l.findSome? f) := by
  rw [List.findSome?_cons]
  cases f a <;> rfl

/-- What has been read in the end: of each section, the one that stands in the page. -/
theorem foldl_addTo (usage : Usage) (ps : List Passage) (sections : Sections) :
    ps.foldl (fun sections s => s.block.addTo usage sections) sections =
      ⟨sections.summary.or (ps.findSome? (·.block.summary?)),
        sections.args.or (ps.findSome? (·.block.args? usage)),
        sections.examples.or (ps.findSome? (·.block.examples?))⟩ := by
  induction ps generalizing sections with
  | nil => simp only [List.foldl_nil, List.findSome?_nil, Option.or_none]
  | cons s ps ih =>
    rw [List.foldl_cons, ih]
    simp only [Block.addTo, findSome?_cons_or, Option.or_assoc]

/-! ## The usage -/

/-- The opening stands in the layout that has the line between backquotes. -/
theorem ofList_opening (p : Page) :
    String.ofList (verbatim [p.opening]) = Usage.quotedLayout p.usageLine (p.desc ++ "\n") := by
  rw [← String.toList_inj, String.toList_ofList, verbatim_cons, verbatim_nil, Page.opening]
  simp [Usage.quotedLayout]

theorem allBlank_desc (h : p.IsSound usage) : allBlank p.desc.toList = false := by
  rw [Bool.eq_false_iff]
  intro hblank
  have hnil : trim p.desc.toList = [] := by
    rw [trim, trimLeft_eq_nil_iff.2 hblank]
    rfl
  exact h.desc_ne (String.toList_eq_nil_iff.1 (h.desc_trim.symm.trans hnil))

theorem ofParagraph?_opening (h : p.IsSound usage) :
    Usage.ofParagraph? (.ofList (verbatim [p.opening])) = .ok usage := by
  have hmem : '\n' ∉ p.desc.toList := fun hn =>
    (h.plain p.opening (List.mem_cons_self ..)).not_mem (by simp [Page.opening, hn])
  have hblank := allBlank_desc h
  have hcolon : (trimLeft (p.desc ++ "\n").toList).head? ≠ some ':' := by
    have hleft : trimLeft p.desc.toList = p.desc.toList := by rw [← h.desc_trim, trimLeft_trim]
    have hne : p.desc.toList ≠ [] := fun h0 => h.desc_ne (String.toList_eq_nil_iff.1 h0)
    rw [String.toList_append, trimLeft_append_of_not_allBlank hblank, hleft,
      List.head?_append_of_ne_nil _ hne]
    exact h.desc_head
  have hdesc : relaxed (p.desc ++ "\n") = p.desc := by
    have hchars : (p.desc ++ "\n").toList = p.desc.toList ++ ['\n'] := String.toList_append
    rw [relaxed, hchars, relaxedChars_line hmem allBlank_nil, h.desc_trim, String.ofList_toList]
  rw [ofList_opening, Usage.ofParagraph?_quotedLayout h.unquoted hcolon, hdesc, h.usageLine]

/-! ## The whole page -/

namespace Page

theorem desc_of_isSound (h : p.IsSound usage) : usage.desc = p.desc := by
  obtain ⟨clause, after, -, -, -, -, rfl⟩ := Usage.ofLine?_eq_ok_iff.1 h.usageLine
  rfl

theorem isPlain_block (h : p.IsSound usage) :
    ∀ s ∈ p.passages, ∀ l ∈ s.block.lines, IsPlain l := by
  intro s hs l hl
  refine h.plain l (List.mem_cons_of_mem _ (List.mem_append_left _ ?_))
  exact List.mem_flatMap.2 ⟨s, hs, List.mem_append_right _ (List.mem_cons_of_mem _ hl)⟩

/-- A page without an arguments section is one of a usage without arguments. -/
theorem names_eq_nil (h : p.IsSound usage)
    (hnone : p.passages.findSome? (·.block.args? usage) = none) : usage.names = [] := by
  refine h.documented.resolve_right fun hmem => ?_
  obtain ⟨s, hs, hsection⟩ := List.mem_filterMap.1 hmem
  have hs := List.findSome?_eq_none_iff.1 hnone s hs
  rw [Passage.section?] at hsection
  cases hb : s.block <;> simp [hb, Block.section?, Block.args?] at hsection hs

/-- What has been read of a page, once all its sections have been. -/
def found (p : Page) (usage : Usage) : Sections where
  summary := p.passages.findSome? (·.block.summary?)
  args := p.passages.findSome? (·.block.args? usage)
  examples := p.passages.findSome? (·.block.examples?)

theorem argsOf_found (h : p.IsSound usage) :
    argsOf usage (p.found usage) = .ok (p.docs usage).desc.args := by
  rw [argsOf, found, docs]
  cases hargs : p.passages.findSome? (·.block.args? usage) with
  | some args => rfl
  | none =>
    have hnil := names_eq_nil h hargs
    have harguments : usage.arguments = [] := List.map_eq_nil_iff.1 hnil
    have hempty : ([] : List String).Perm usage.names := hnil ▸ .nil
    have hread := @readArguments_verbatim [] usage (fun _ => ⟨[], []⟩) hempty (hnil ▸ .nil) nofun
      nofun nofun
    rw [harguments] at hread
    exact hread

/-- **A page that is printed is the documentation that is read**: the usage of its line with its
description, and of every section what is written there. -/
theorem ofText?_text (h : p.IsSound usage) (margin : Nat) :
    ofText? (some (p.text margin)) = .ok (p.docs usage) := by
  obtain ⟨log, hsections⟩ := foldlM_readSection h.passages (isPlain_block h) h.names
    (Usage.nodup_names h.usageLine) h.once ⟨none, none, none⟩ (fun t _ => by cases t <;> rfl)
    [.parsedUsage usage.canonical usage.arity]
  rw [foldl_addTo] at hsections
  have hdesc : allBlank usage.desc.toList = false := by
    rw [desc_of_isSound h]
    exact allBlank_desc h
  have hread : read (some (p.text margin)) [] = .ok (p.docs usage) log :=
    read_eq_ok_iff.2 ⟨_, _, usage, _, p.found usage, _, paragraphsOf_text h margin,
      readUsage_eq_ok_iff.2 ⟨ofParagraph?_opening h, rfl⟩, hsections, hdesc, argsOf_found h, rfl⟩
  rw [ofText?, result, EStateM.run, hread]

/-! ## A page -/

/-- A usage with a required argument and a rest argument. -/
def pushUsage : Usage where
  ids := ["push", "p"]
  required := ["branch"]
  optional := []
  rest := some ⟨"flags", false⟩
  desc := "Push commits."

/-- A page with all kinds of sections, in an order of its own. -/
def pushPage : Page where
  usageLine := "(push|p) <branch> [flags...]"
  desc := "Push commits."
  passages :=
    [⟨[[]], ⟨"PARAMETERS".toList, true⟩, .arguments ["flags", "branch"] fun name =>
        if name = "branch" then ⟨"What to push:".toList, ["    one branch".toList]⟩
        else ⟨"Flags.".toList, []⟩⟩,
      ⟨[[], []], ⟨"Notes".toList, false⟩, .other ["summary: none".toList]⟩,
      ⟨[[]], ⟨"examples".toList, false⟩, .examples ["push main".toList, "  --force".toList]⟩,
      ⟨[[]], ⟨"Overview".toList, true⟩, .summary ["Pushes ".toList, "  commits.".toList]⟩]
  ending := [[]]

theorem isSound_pushPage : pushPage.IsSound pushUsage where
  usageLine :=
    Usage.ofLine?_text (f := ⟨.alternatives ["push".toList, ['p']], [⟨[' '], "branch".toList⟩], [],
      some ⟨[' '], "flags".toList, false⟩, []⟩) (by decide) rfl _
  unquoted := by decide
  desc_ne := by decide
  desc_trim := by decide
  desc_head := by decide
  names := by decide
  plain := by decide +kernel
  passages := by decide +kernel
  ending := by decide
  once := by decide
  documented := .inr (by decide)

theorem ofText?_text_push : pushPage.IsSound pushUsage ∧
    pushPage.text 4 = "`(push|p) <branch> [flags...]` Push commits.\n\n" ++
      "    # PARAMETERS\n    flags: Flags.\n    branch: What to push:\n        one branch\n\n\n" ++
      "    Notes:\n    summary: none\n\n    examples:\n    push main\n      --force\n\n" ++
      "    # Overview\n    Pushes \n      commits.\n" ∧
    ofText? (some (pushPage.text 4)) = .ok (pushPage.docs pushUsage) :=
  ⟨isSound_pushPage, by decide +kernel, ofText?_text isSound_pushPage 4⟩

end Page

end CommandSpec.Docs
