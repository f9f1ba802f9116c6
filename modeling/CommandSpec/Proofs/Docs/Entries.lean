import CommandSpec.Proofs.Docs.Page
import CommandSpec.Proofs.Step
import CommandSpec.Proofs.Text.Relaxed

/-!
# Proofs/Docs/Entries — entries that are printed are the entries that are read

An entry goes up to the line where the next one begins: a line of its text without a colon opens no
entry (`entryHead?_eq_none`), and the line that opens one is read back (`entryHead?_entry`).  So the
entries of a section come back in their order (`entries_verbatim`), each with the text that was
written of it.
-/

namespace CommandSpec.Docs

open Text

variable {l s t : List Char} {ls : List (List Char)} {b : Bool}

/-! ## Unfolding the scan -/

theorem entriesFrom_nil (b : Bool) : entriesFrom b [] = ([], []) := by
  rw [entriesFrom.eq_def]

theorem entriesFrom_of_head {e : EntryHead} (h : entryHeadAt? b s = some e) :
    entriesFrom b s = ([], (e.name, (entriesFrom e.atLineStart e.rest).1) ::
      (entriesFrom e.atLineStart e.rest).2) := by
  cases s with
  | nil => cases b <;> cases h
  | cons c cs =>
    rw [entriesFrom.eq_def]
    dsimp only
    split
    · next e' he' =>
      obtain rfl : e = e' := Option.some.inj (h.symm.trans he')
      rfl
    · next he' => cases h.symm.trans he'

theorem entriesFrom_cons_of_none {c : Char} (h : entryHeadAt? b (c :: s) = none) :
    entriesFrom b (c :: s) =
      (c :: (entriesFrom (c = '\n') s).1, (entriesFrom (c = '\n') s).2) := by
  rw [entriesFrom.eq_def]
  dsimp only
  split
  · next e he => cases h.symm.trans he
  · rfl

/-- Where no entry begins, it makes no difference whether one might. -/
theorem entriesFrom_of_none (h : entryHeadAt? b s = none) :
    entriesFrom b s = entriesFrom false s := by
  cases s with
  | nil => rw [entriesFrom_nil, entriesFrom_nil]
  | cons c cs => rw [entriesFrom_cons_of_none h, entriesFrom_cons_of_none rfl]

/-- The rest of a line belongs to the text of its entry. -/
theorem entriesFrom_line (hl : '\n' ∉ l) (s : List Char) :
    entriesFrom false (l ++ '\n' :: s) =
      (l ++ '\n' :: (entriesFrom true s).1, (entriesFrom true s).2) := by
  induction l with
  | nil => rw [List.nil_append, entriesFrom_cons_of_none rfl]; rfl
  | cons c cs ih =>
    obtain ⟨hc, hcs⟩ : '\n' ≠ c ∧ '\n' ∉ cs := by simpa using hl
    rw [List.cons_append, entriesFrom_cons_of_none rfl, decide_eq_false (Ne.symm hc), ih hcs]
    rfl

/-! ## Lines that open no entry -/

/-- A name goes up to a colon or to the end of its line. -/
theorem dropWhile_name {p : Char → Bool} (hp : p = fun d => d ≠ ':' && d ≠ '\n')
    {c : Char} (hcolon : ':' ∉ l) (hmem : '\n' ∉ l) (hc : c = ':' ∨ c = '\n') (s : List Char) :
    (l ++ c :: s).dropWhile p = c :: s ∧ (l ++ c :: s).takeWhile p = l := by
  have hname : ∀ d ∈ l, p d = true := by
    intro d hd
    have h₁ : d ≠ ':' := fun h => hcolon (h ▸ hd)
    have h₂ : d ≠ '\n' := fun h => hmem (h ▸ hd)
    simp [hp, h₁, h₂]
  have hstop : ¬p c = true := by
    rw [hp]
    rcases hc with rfl | rfl <;> decide
  rw [List.dropWhile_append_of_pos hname, List.dropWhile_cons_of_neg hstop,
    List.takeWhile_append_of_pos hname, List.takeWhile_cons_of_neg hstop, List.append_nil]
  exact ⟨rfl, rfl⟩

theorem exists_trimLeft_eq_cons (h : allBlank l = false) :
    ∃ c cs, trimLeft l = c :: cs :=
  List.exists_cons_of_ne_nil fun h0 => by simp [trimLeft_eq_nil_iff.1 h0] at h

/-- **A line without a colon opens no entry**, when no colon comes next. -/
theorem entryHead?_eq_none (hl : GoesOn l) (hmem : '\n' ∉ l)
    (hs : (trimLeft s).head? ≠ some ':') : entryHead? (l ++ '\n' :: s) = none := by
  obtain ⟨c, cs, hc⟩ := exists_trimLeft_eq_cons hl.1
  have hsub : ∀ d ∈ cs, d ∈ l := fun d hd =>
    mem_of_mem_trimLeft (hc ▸ List.mem_cons_of_mem c hd)
  have hdrop := dropWhile_name rfl (fun h => hl.2 (hsub _ h)) (fun h => hmem (hsub _ h))
    (.inr rfl) s
  unfold entryHead?
  rw [trimLeft_append_of_not_allBlank hl.1, hc, List.cons_append]
  dsimp only
  rw [hdrop.1, trimLeft_cons_of_isBlank (by decide)]
  split
  · next after heq => exact absurd (by rw [heq]; rfl) hs
  · rfl

theorem head?_trimLeft_verbatim (h : ∀ l ∈ ls, GoesOn l) (hs : (trimLeft s).head? ≠ some ':') :
    (trimLeft (verbatim ls ++ s)).head? ≠ some ':' := by
  cases ls with
  | nil => exact hs
  | cons l ls =>
    obtain ⟨hblank, hcolon⟩ := h l (List.mem_cons_self ..)
    obtain ⟨c, cs, hc⟩ := exists_trimLeft_eq_cons hblank
    rw [verbatim_cons, List.append_assoc, trimLeft_append_of_not_allBlank hblank, hc]
    intro hhead
    obtain rfl : c = ':' := Option.some.inj hhead
    exact hcolon (mem_of_mem_trimLeft (hc ▸ List.mem_cons_self ..))

/-- **Lines that go on belong to the text of their entry.** -/
theorem entriesFrom_lines (h : ∀ l ∈ ls, GoesOn l) (hmem : ∀ l ∈ ls, '\n' ∉ l)
    (hs : (trimLeft s).head? ≠ some ':') : entriesFrom true (verbatim ls ++ s) =
      (verbatim ls ++ (entriesFrom true s).1, (entriesFrom true s).2) := by
  induction ls with
  | nil => rfl
  | cons l ls ih =>
    obtain ⟨hl, hls⟩ := List.forall_mem_cons.1 h
    obtain ⟨hlm, hlsm⟩ := List.forall_mem_cons.1 hmem
    have hnone : entryHeadAt? true (l ++ '\n' :: (verbatim ls ++ s)) = none :=
      entryHead?_eq_none hl hlm (head?_trimLeft_verbatim hls hs)
    rw [verbatim_cons, List.append_assoc, List.cons_append, entriesFrom_of_none hnone,
      entriesFrom_line hlm, ih hls hlsm, List.append_assoc, List.cons_append]

/-! ## One entry -/

/-- **The line that opens an entry is read back.** -/
theorem entryHead?_entry {name : List Char} (hn : IsEntryName name) (hmem : '\n' ∉ name)
    (s : List Char) : entryHead? (name ++ ':' :: s) =
      some ⟨name, endsLine (s.takeWhile isBlank), trimLeft s⟩ := by
  obtain ⟨hne, htrim, hcolon⟩ := hn
  obtain ⟨c, cs, rfl⟩ := List.exists_cons_of_ne_nil hne
  have hleft : trimLeft (c :: cs) = c :: cs := by
    rw [← htrim, trimLeft_trim]
  have hright : trimRight cs = cs := trimRight_of_cons (by rw [← htrim, trimRight_trim])
  have hstart : trimLeft (c :: cs ++ ':' :: s) = c :: cs ++ ':' :: s := by
    rw [List.cons_append, trimLeft_cons_of_not_isBlank (isBlank_head_trimLeft hleft)]
  have hname := dropWhile_name rfl (fun h => hcolon (List.mem_cons_of_mem c h))
    (fun h => hmem (List.mem_cons_of_mem c h)) (.inl rfl) s
  unfold entryHead?
  rw [hstart, List.cons_append]
  dsimp only
  rw [hname.1, hname.2, trimLeft_cons_of_not_isBlank (by decide), hright]
  rfl

/-- The text of an entry whose first line that is not blank is `l`. -/
theorem entriesFrom_text (hl : b = true → ':' ∉ l) (hblank : allBlank l = false) (hmem : '\n' ∉ l)
    (h : ∀ l ∈ ls, GoesOn l) (hmems : ∀ l ∈ ls, '\n' ∉ l)
    (hs : (trimLeft s).head? ≠ some ':') :
    entriesFrom b (trimLeft l ++ '\n' :: (verbatim ls ++ s)) =
      (trimLeft l ++ '\n' :: (verbatim ls ++ (entriesFrom true s).1), (entriesFrom true s).2) := by
  have hnone : entryHeadAt? b (trimLeft l ++ '\n' :: (verbatim ls ++ s)) = none := by
    cases b with
    | false => rfl
    | true =>
      refine entryHead?_eq_none ⟨?_, fun h => hl rfl (mem_of_mem_trimLeft h)⟩
        (fun h => hmem (mem_of_mem_trimLeft h)) (head?_trimLeft_verbatim h hs)
      rwa [allBlank_trimLeft]
  rw [entriesFrom_of_none hnone, entriesFrom_line fun h => hmem (mem_of_mem_trimLeft h),
    entriesFrom_lines h hmems hs]

/-- The text of an entry, before it is brought onto one line. -/
def Remark.raw (r : Remark) : List Char := trimLeft (verbatim (r.first :: r.more))

theorem endsLine_of_not_mem (h : '\n' ∉ s) : endsLine s = false :=
  decide_eq_false fun hlast => h (List.mem_of_getLast? hlast)

theorem endsLine_append_lineFeed (s : List Char) : endsLine (s ++ ['\n']) = true :=
  decide_eq_true List.getLast?_concat

/-- The text of an entry that begins on the line of the name. -/
theorem entriesFrom_remark_of_first {r : Remark} (hblank : allBlank r.first = false)
    (hr : r.Continues) (hfirst : '\n' ∉ r.first) (hmore : ∀ l ∈ r.more, '\n' ∉ l)
    (hs : (trimLeft s).head? ≠ some ':')
    (ht : t = ' ' :: r.first ++ '\n' :: (verbatim r.more ++ s)) :
    entriesFrom (endsLine (t.takeWhile isBlank)) (trimLeft t) =
      (r.raw ++ (entriesFrom true s).1, (entriesFrom true s).2) := by
  obtain ⟨g, hg, hgap⟩ := exists_blank_append_trimLeft r.first
  have hfront : allBlank (' ' :: g) = true := by
    rw [allBlank_cons, hg]
    rfl
  have hmem : '\n' ∉ ' ' :: g := by
    rw [List.mem_cons, not_or]
    exact ⟨by decide, fun h => hfirst (hgap ▸ List.mem_append_left _ h)⟩
  have hstart : trimLeft (trimLeft r.first ++ '\n' :: (verbatim r.more ++ s)) =
      trimLeft r.first ++ '\n' :: (verbatim r.more ++ s) := by
    rw [trimLeft_append_of_not_allBlank (by rwa [allBlank_trimLeft]), trimLeft_trimLeft]
  have ht' : t = ' ' :: g ++ (trimLeft r.first ++ '\n' :: (verbatim r.more ++ s)) := by
    rw [ht]
    conv_lhs => rw [hgap]
    rw [List.cons_append, List.append_assoc, List.cons_append]
  rw [ht', takeWhile_isBlank_append hfront hstart, trimLeft_append_of_allBlank hfront, hstart,
    endsLine_of_not_mem hmem, entriesFrom_text (fun h => by cases h) hblank hfirst hr hmore hs,
    Remark.raw, verbatim_cons, trimLeft_append_of_not_allBlank hblank, List.append_assoc,
    List.cons_append]

/-- The text of an entry that begins below the name, if anywhere. -/
theorem entriesFrom_remark_of_blank {r : Remark} (hblank : allBlank r.first = true)
    (hr : r.Continues) (hmore : ∀ l ∈ r.more, '\n' ∉ l) (hleft : trimLeft s = s)
    (hs : (trimLeft s).head? ≠ some ':')
    (ht : t = ' ' :: r.first ++ '\n' :: (verbatim r.more ++ s)) :
    entriesFrom (endsLine (t.takeWhile isBlank)) (trimLeft t) =
      (r.raw ++ (entriesFrom true s).1, (entriesFrom true s).2) := by
  have hgap : allBlank (' ' :: r.first ++ ['\n']) = true := by
    rw [allBlank_append, allBlank_cons, hblank]
    rfl
  have ht' : t = ' ' :: r.first ++ ['\n'] ++ (verbatim r.more ++ s) := by
    rw [ht, List.append_assoc, List.singleton_append]
  have hraw : r.raw = trimLeft (verbatim r.more) := by
    rw [Remark.raw, verbatim_cons, trimLeft_append_of_allBlank hblank,
      trimLeft_cons_of_isBlank (by decide)]
  rw [ht', trimLeft_append_of_allBlank hgap, hraw]
  cases hrest : r.more with
  | nil =>
    rw [verbatim_nil, List.nil_append, takeWhile_isBlank_append hgap hleft, hleft,
      endsLine_append_lineFeed]
    rfl
  | cons l ls =>
    rw [Remark.Continues, hrest] at hr
    rw [hrest] at hmore
    obtain ⟨hl, hls⟩ := List.forall_mem_cons.1 hr
    obtain ⟨hlm, hlsm⟩ := List.forall_mem_cons.1 hmore
    have hstart : trimLeft (verbatim (l :: ls) ++ s) =
        trimLeft l ++ '\n' :: (verbatim ls ++ s) := by
      rw [verbatim_cons, List.append_assoc, List.cons_append,
        trimLeft_append_of_not_allBlank hl.1]
    have htext : trimLeft (verbatim (l :: ls)) = trimLeft l ++ '\n' :: verbatim ls := by
      rw [verbatim_cons, trimLeft_append_of_not_allBlank hl.1]
    rw [hstart, htext, entriesFrom_text (fun _ => hl.2) hl.1 hlm hls hlsm hs, List.append_assoc,
      List.cons_append]

/-- **An entry goes up to the next entry**, or to the end. -/
theorem entriesFrom_entry {name : String} {r : Remark} (hn : IsEntryName name.toList)
    (hr : r.Continues) (hplain : ∀ l ∈ r.lines name, IsPlain l) (hleft : trimLeft s = s)
    (hs : s.head? ≠ some ':') : entriesFrom true (verbatim (r.lines name) ++ s) =
      ([], (name.toList, r.raw ++ (entriesFrom true s).1) :: (entriesFrom true s).2) := by
  obtain ⟨hopen, hmore⟩ := List.forall_mem_cons.1 hplain
  have hs' : (trimLeft s).head? ≠ some ':' := by rwa [hleft]
  have hname : '\n' ∉ name.toList := fun h => hopen.not_mem (List.mem_append_left _ h)
  have hfirst : '\n' ∉ r.first := fun h => hopen.not_mem (by simp [h])
  have hmore' : ∀ l ∈ r.more, '\n' ∉ l := fun l hl => (hmore l hl).not_mem
  obtain ⟨t, ht⟩ : ∃ t, t = ' ' :: r.first ++ '\n' :: (verbatim r.more ++ s) := ⟨_, rfl⟩
  have hstart : verbatim (r.lines name) ++ s = name.toList ++ ':' :: t := by
    rw [ht, Remark.lines, verbatim_cons]
    simp only [List.append_assoc, List.cons_append]
  have hhead : entryHeadAt? true (name.toList ++ ':' :: t) =
      some ⟨name.toList, endsLine (t.takeWhile isBlank), trimLeft t⟩ := entryHead?_entry hn hname t
  have htext : entriesFrom (endsLine (t.takeWhile isBlank)) (trimLeft t) =
      (r.raw ++ (entriesFrom true s).1, (entriesFrom true s).2) := by
    cases hblank : allBlank r.first with
    | false => exact entriesFrom_remark_of_first hblank hr hfirst hmore' hs' ht
    | true => exact entriesFrom_remark_of_blank hblank hr hmore' hleft hs' ht
  rw [hstart, entriesFrom_of_head hhead, htext]

/-! ## All entries -/

variable {names : List String}

/-- What begins with a name begins an entry. -/
theorem trimLeft_verbatim_entries (written : String → Remark)
    (hn : ∀ n ∈ names, IsEntryName n.toList) :
    trimLeft (verbatim (names.flatMap fun n => (written n).lines n)) =
        verbatim (names.flatMap fun n => (written n).lines n) ∧
      (verbatim (names.flatMap fun n => (written n).lines n)).head? ≠ some ':' := by
  cases names with
  | nil => exact ⟨rfl, by simp⟩
  | cons n names =>
    obtain ⟨hne, htrim, hcolon⟩ := hn n (List.mem_cons_self ..)
    obtain ⟨c, cs, hc⟩ := List.exists_cons_of_ne_nil hne
    have hblank : isBlank c = false := isBlank_head_trimLeft (s := n.toList) (r := cs) (by
      rw [← htrim, trimLeft_trim, htrim, hc])
    rw [List.flatMap_cons, verbatim_append, Remark.lines, verbatim_cons, hc]
    refine ⟨trimLeft_cons_of_not_isBlank hblank, fun h => hcolon ?_⟩
    obtain rfl : c = ':' := Option.some.inj h
    rw [hc]
    exact List.mem_cons_self ..

/-- **Entries that are printed are read back** in their order. -/
theorem entriesFrom_verbatim {written : String → Remark}
    (hn : ∀ n ∈ names, IsEntryName n.toList)
    (hr : ∀ n ∈ names, (written n).Continues)
    (hplain : ∀ n ∈ names, ∀ l ∈ (written n).lines n, IsPlain l) :
    entriesFrom true (verbatim (names.flatMap fun n => (written n).lines n)) =
      ([], names.map fun n => (n.toList, (written n).raw)) := by
  induction names with
  | nil => exact entriesFrom_nil true
  | cons n names ih =>
    obtain ⟨hn₀, hn⟩ := List.forall_mem_cons.1 hn
    obtain ⟨hr₀, hr⟩ := List.forall_mem_cons.1 hr
    obtain ⟨hp₀, hp⟩ := List.forall_mem_cons.1 hplain
    obtain ⟨hleft, hhead⟩ := trimLeft_verbatim_entries written hn
    rw [List.flatMap_cons, verbatim_append, entriesFrom_entry hn₀ hr₀ hp₀ hleft hhead,
      ih hn hr hp, List.append_nil, List.map_cons]

theorem Remark.ofList_relaxedChars_raw {r : Remark} (h : ∀ l ∈ r.first :: r.more, '\n' ∉ l) :
    String.ofList (relaxedChars r.raw) = r.text := by
  rw [Remark.raw, relaxedChars_trimLeft, relaxedChars_verbatim h, Remark.text]

/-! ## What has been found -/

theorem lookup_map_of_mem {f : String → String} {n : String} (hn : n ∈ names) :
    (names.map fun n => (n, f n)).lookup n = some (f n) := by
  induction names with
  | nil => cases hn
  | cons m names ih =>
    rw [List.map_cons, List.lookup_cons]
    by_cases h : n = m
    · rw [h, beq_self_eq_true]
    · rw [beq_false_of_ne h]
      exact ih ((List.mem_cons.1 hn).resolve_left h)

/-- **Entries of different names are all found.** -/
theorem gatherEntries_map {text : String → List Char} {found : List (String × String)}
    (hnames : names.Nodup) (hfound : ∀ n ∈ names, found.lookup n = none) :
    gatherEntries found (names.map fun n => (n.toList, text n)) =
      .ok (found ++ names.map fun n => (n, .ofList (relaxedChars (text n)))) := by
  induction names generalizing found with
  | nil => rw [List.map_nil, List.map_nil, List.append_nil]; rfl
  | cons n names ih =>
    obtain ⟨hn, hnames⟩ := List.nodup_cons.1 hnames
    obtain ⟨hfound₀, hfound⟩ := List.forall_mem_cons.1 hfound
    have hmore : ∀ m ∈ names,
        (found ++ [(n, String.ofList (relaxedChars (text n)))]).lookup m = none := by
      intro m hm
      have hne : m ≠ n := fun h => hn (h ▸ hm)
      rw [List.lookup_append, hfound m hm, Option.none_or, List.lookup_cons, beq_false_of_ne hne]
      rfl
    rw [List.map_cons, gatherEntries, String.ofList_toList, hfound₀]
    exact (ih hnames hmore).trans (by rw [List.append_assoc, List.singleton_append, List.map_cons])

theorem sameMembers_of_perm {xs ys : List String} (h : xs.Perm ys) : sameMembers xs ys = true := by
  rw [sameMembers, Bool.and_eq_true, List.all_eq_true, List.all_eq_true]
  exact ⟨fun x hx => List.contains_iff_mem.2 (h.mem_iff.1 hx),
    fun y hy => List.contains_iff_mem.2 (h.mem_iff.2 hy)⟩

/-- The entries that are found in a printed section are those that it has been printed from. -/
theorem gatherEntries_verbatim {written : String → Remark} (hnodup : names.Nodup)
    (hn : ∀ n ∈ names, IsEntryName n.toList) (hr : ∀ n ∈ names, (written n).Continues)
    (hplain : ∀ n ∈ names, ∀ l ∈ (written n).lines n, IsPlain l) :
    gatherEntries [] (entries (verbatim (names.flatMap fun n => (written n).lines n))) =
      .ok (names.map fun n => (n, (written n).text)) := by
  have hmem : ∀ n ∈ names, ∀ l ∈ (written n).first :: (written n).more, '\n' ∉ l := by
    intro n hn
    obtain ⟨hopen, hmore⟩ := List.forall_mem_cons.1 (hplain n hn)
    exact List.forall_mem_cons.2 ⟨fun h => hopen.not_mem (by simp [h]),
      fun l hl => (hmore l hl).not_mem⟩
  rw [entries, entriesFrom_verbatim hn hr hplain, gatherEntries_map hnodup fun _ _ => rfl,
    List.nil_append]
  refine congrArg Except.ok (List.map_congr_left fun n hn => ?_)
  rw [Remark.ofList_relaxedChars_raw (hmem n hn)]

/-- **An arguments section that is printed is read back**, in the order of the usage. -/
theorem readArguments_verbatim {usage : Usage} {written : String → Remark}
    (hperm : names.Perm usage.names) (hnodup : usage.names.Nodup)
    (hn : ∀ n ∈ names, IsEntryName n.toList) (hr : ∀ n ∈ names, (written n).Continues)
    (hplain : ∀ n ∈ names, ∀ l ∈ (written n).lines n, IsPlain l) :
    readArguments usage (.ofList (verbatim (names.flatMap fun n => (written n).lines n))) =
      .ok (usage.arguments.map fun a => ⟨a.name, a.isRequired, (written a.name).text⟩) := by
  have hfound := gatherEntries_verbatim (hperm.nodup_iff.2 hnodup) hn hr hplain
  have hsome : (!allBlank (verbatim (names.flatMap fun n => (written n).lines n)) &&
      (names.map fun n => (n, (written n).text)).isEmpty) = false := by
    cases names with
    | nil => rfl
    | cons n names => rw [List.map_cons, List.isEmpty_cons, Bool.and_false]
  have hsame : sameMembers ((names.map fun n => (n, (written n).text)).map (·.1)) usage.names =
      true := by
    refine sameMembers_of_perm ?_
    rw [List.map_map]
    exact (List.map_id names).symm ▸ hperm
  unfold readArguments
  rw [String.toList_ofList]
  refine except_bind_eq_ok_iff.2 ⟨_, hfound, ?_⟩
  dsimp only
  rw [hsome, if_neg Bool.false_ne_true, if_pos hsame]
  refine congrArg Except.ok (List.map_congr_left fun a ha => ?_)
  have ha : a.name ∈ names := hperm.mem_iff.2 (List.mem_map_of_mem ha)
  rw [lookup_map_of_mem ha]
  rfl

end CommandSpec.Docs
