import CommandSpec.Proofs.Docs.Entries
import CommandSpec.Proofs.Text.Widened
import Mathlib.Data.List.Forall2

/-!
# Proofs/Docs/Indented — arguments sections that are indented

Where every entry but the last has a text, an arguments section reads alike however its lines are
indented.  An entry without a text reaches up to the first word below it.  If this word stands flush
it begins a line, and may begin an entry; behind a margin it does not, and what was the next entry
becomes the text of this one (`entriesFrom_widened`).  So a section can be indented without a change
exactly when every entry but the last has a text (`readArguments_behindMargin`).
-/

namespace CommandSpec.Docs

open Text

variable {b : Bool} {c : Char} {s t : List Char} {e e' : EntryHead}
  {es es' : List (List Char × List Char)}

/-! ## Heads behind a margin -/

/-- **The head of an entry, and the same head behind a margin**, where the text after it begins at
the start of a line only if there is none. -/
structure EntryHead.Widens (e e' : EntryHead) : Prop where
  name_eq : e'.name = e.name
  rest : Widened false e.rest e'.rest
  hasMargin : HasMargin e'.rest
  trimLeft_eq : trimLeft e.rest = e.rest
  eq_nil : e'.atLineStart = true → e'.rest = []

theorem hasMargin_dropWhile {p : Char → Bool} (h : HasMargin s) : HasMargin (s.dropWhile p) :=
  List.IsChain.suffix h (List.dropWhile_suffix p)

theorem hasMargin_of_cons (h : HasMargin (c :: s)) : HasMargin s := List.IsChain.tail h

/-- Behind a margin, nothing but blanks comes after blanks that end a line. -/
theorem trimLeft_eq_nil_of_endsLine (h : HasMargin s)
    (hend : endsLine (s.takeWhile isBlank) = true) : trimLeft s = [] := by
  cases hs : trimLeft s with
  | nil => rfl
  | cons c r =>
    have hsplit : s.takeWhile isBlank ++ c :: r = s := hs ▸ List.takeWhile_append_dropWhile
    rw [← hsplit] at h
    have hblank := (List.isChain_append.1 h).2.2 '\n' (of_decide_eq_true hend) c rfl rfl
    rw [isBlank_head_trimLeft hs] at hblank
    cases hblank

/-- **The same heads are found behind a margin.** -/
theorem entryHead?_widened (h : Widened b s t) (ht : HasMargin t) :
    Option.Rel EntryHead.Widens (entryHead? s) (entryHead? t) := by
  have hleft := h.trimLeft
  have hmargin : HasMargin (trimLeft t) := hasMargin_dropWhile ht
  unfold entryHead?
  revert hleft hmargin
  generalize hs : trimLeft s = s'
  generalize trimLeft t = t'
  intro hleft hmargin
  cases hleft with
  | nil => exact .none
  | @cons _ c s t hst =>
    have hc : c ≠ '\n' := by
      rintro rfl
      cases isBlank_head_trimLeft hs
    rw [decide_eq_false hc] at hst
    let inName (d : Char) : Bool := d ≠ ':' && d ≠ '\n'
    have hname : t.takeWhile inName = s.takeWhile inName := hst.takeWhile_eq fun hmem => by
      cases List.mem_takeWhile_imp hmem
    have hcolon := (hst.dropWhile (p := inName) rfl).trimLeft
    have hmargin : HasMargin (trimLeft (t.dropWhile inName)) :=
      hasMargin_dropWhile (hasMargin_dropWhile (hasMargin_of_cons hmargin))
    dsimp only
    rw [hname]
    revert hcolon hmargin
    generalize trimLeft (s.dropWhile inName) = s'
    generalize trimLeft (t.dropWhile inName) = t'
    intro hcolon hmargin
    cases hcolon with
    | nil => exact .none
    | @cons _ d s t hst =>
      by_cases hd : d = ':'
      · subst hd
        exact .some ⟨rfl, hst.trimLeft, hasMargin_dropWhile (hasMargin_of_cons hmargin),
          trimLeft_trimLeft s, trimLeft_eq_nil_of_endsLine (hasMargin_of_cons hmargin)⟩
      · split
        · next heq => exact absurd (List.cons.inj heq).1 hd
        · split
          · next heq => exact absurd (List.cons.inj heq).1 hd
          · exact .none

theorem entryHeadAt?_widened (h : Widened b s t) (ht : HasMargin t) :
    Option.Rel EntryHead.Widens (entryHeadAt? b s) (entryHeadAt? b t) := by
  cases b with
  | false => exact .none
  | true => exact entryHead?_widened h ht

/-! ## Entries behind a margin -/

/-- Every entry but the last has a text. -/
def Filled (es : List (List Char × List Char)) : Prop := ∀ e ∈ es.dropLast, e.2 ≠ []

instance (es : List (List Char × List Char)) : Decidable (Filled es) :=
  inferInstanceAs (Decidable (∀ e ∈ es.dropLast, e.2 ≠ []))

theorem filled_cons_iff {entry : List Char × List Char} :
    Filled (entry :: es) ↔ es = [] ∨ entry.2 ≠ [] ∧ Filled es := by
  cases es with
  | nil => exact iff_of_true (fun _ h => nomatch h) (.inl rfl)
  | cons entry' es =>
    rw [or_iff_right (List.cons_ne_nil _ _), Filled, List.dropLast_cons_of_ne_nil (by simp)]
    exact List.forall_mem_cons

/-- Two entries of one name, the second with spaces in front of the lines of its text. -/
def WidenedEntry (x y : List Char × List Char) : Prop := y.1 = x.1 ∧ Widened true x.2 y.2

/-- An entry that has no text among the first entries has one among the second. -/
def Swallows (es es' : List (List Char × List Char)) : Prop :=
  ∃ name text, (name, []) ∈ es ∧ (name, text) ∈ es' ∧ allBlank text = false

/-- **What two scans have found**, the second behind a margin: every entry but the last has a text,
and they have found the same, or one has not, and it has swallowed what is below it. -/
inductive Agree (b : Bool) (r r' : List Char × List (List Char × List Char)) : Prop
  | same (filled : Filled r.2) (text : Widened b r.1 r'.1)
    (entries : List.Forall₂ WidenedEntry r.2 r'.2)
  | swallowed (not_filled : ¬Filled r.2) (swallows : Swallows r.2 r'.2)

variable {r r' : List Char × List (List Char × List Char)} {n : Nat}

/-- A character in front belongs to the text before the first entry, and so do spaces. -/
theorem Agree.cons (h : Agree (c = '\n') r r') (hn : b = false → n = 0) :
    Agree b (c :: r.1, r.2) (List.replicate n ' ' ++ c :: r'.1, r'.2) := by
  cases h with
  | same filled text entries =>
    exact .same filled ((Widened.cons false c text).of_spaces hn) entries
  | swallowed not_filled swallows => exact .swallowed not_filled swallows

/-- An entry in front that has a text is found in both. -/
theorem Agree.entry (h : Agree false r r') (name : List Char) (hr : r.1 = [] → r.2 = []) :
    Agree b ([], (name, r.1) :: r.2) ([], (name, r'.1) :: r'.2) := by
  cases h with
  | same filled text entries =>
    refine .same (filled_cons_iff.2 ?_) (.nil b) (.cons ⟨rfl, text.mono⟩ entries)
    by_cases hnil : r.1 = []
    · exact .inl (hr hnil)
    · exact .inr ⟨hnil, filled⟩
  | swallowed not_filled swallows =>
    obtain ⟨name', text, hmem, hmem', hblank⟩ := swallows
    refine .swallowed (fun h => ?_) ⟨name', text, List.mem_cons_of_mem _ hmem,
      List.mem_cons_of_mem _ hmem', hblank⟩
    rcases filled_cons_iff.1 h with hnil | ⟨-, hfilled⟩
    · rw [hnil] at hmem
      cases hmem
    · exact not_filled hfilled

/-- Spaces belong to the text before the first entry. -/
theorem entriesFrom_replicate (n : Nat) (s : List Char) :
    entriesFrom false (List.replicate n ' ' ++ s) =
      (List.replicate n ' ' ++ (entriesFrom false s).1, (entriesFrom false s).2) := by
  induction n with
  | zero => rfl
  | succ n ih =>
    rw [List.replicate_succ, List.cons_append, entriesFrom_cons_of_none rfl,
      decide_eq_false (by decide), ih]
    rfl

/-- Where no entry begins, none begins behind a margin either. -/
theorem entriesFrom_widened_of_none (h : Widened b s t) (ht : HasMargin t)
    (hs : entryHeadAt? b s = none) :
    entriesFrom b s = entriesFrom false s ∧ entriesFrom b t = entriesFrom false t := by
  have hhead := entryHeadAt?_widened h ht
  rw [hs] at hhead
  cases htn : entryHeadAt? b t with
  | none => exact ⟨entriesFrom_of_none hs, entriesFrom_of_none htn⟩
  | some e =>
    rw [htn] at hhead
    cases hhead

/-- The text of an entry behind a margin begins in the middle of its line. -/
theorem EntryHead.Widens.entriesFrom_eq (h : e.Widens e') :
    entriesFrom e'.atLineStart e'.rest = entriesFrom false e'.rest := by
  cases hstart : e'.atLineStart with
  | false => rfl
  | true => rw [h.eq_nil hstart, entriesFrom_nil, entriesFrom_nil]

/-- The text of an entry behind a margin is not blank, unless nothing is left. -/
theorem EntryHead.Widens.allBlank_text (h : e.Widens e') (hne : e.rest ≠ []) :
    allBlank (entriesFrom false e'.rest).1 = false := by
  obtain ⟨c, r, hr⟩ := List.exists_cons_of_ne_nil hne
  have hrest := h.rest
  have htrim := h.trimLeft_eq
  rw [hr] at hrest htrim
  generalize e'.rest = rest at hrest
  cases hrest with
  | cons _ _ hrest =>
    rw [entriesFrom_cons_of_none rfl, allBlank_cons, isBlank_head_trimLeft htrim]
    rfl

/-- A text that does not begin with an entry is not empty, unless nothing is left. -/
theorem eq_nil_of_entriesFrom_false (h : (entriesFrom false s).1 = []) :
    (entriesFrom false s).2 = [] := by
  cases s with
  | nil => rw [entriesFrom_nil]
  | cons c s =>
    rw [entriesFrom_cons_of_none rfl] at h
    cases h

/-- **Scanning behind a margin** finds the same entries, unless one of them swallows the next. -/
theorem entriesFrom_widened (h : Widened b s t) (ht : HasMargin t) :
    Agree b (entriesFrom b s) (entriesFrom b t) := by
  induction hlength : s.length using Nat.strong_induction_on generalizing b s t with
  | _ length ih =>
    subst hlength
    have hhead := entryHeadAt?_widened h ht
    cases hs : entryHeadAt? b s with
    | none =>
      obtain ⟨hsb, htb⟩ := entriesFrom_widened_of_none h ht hs
      obtain ⟨n, t, rfl, hst, hn⟩ := h.exists_spaces
      rw [hsb, htb, entriesFrom_replicate]
      cases hst with
      | nil =>
        rw [entriesFrom_nil]
        exact .same (fun _ h => nomatch h) ((Widened.nil false).of_spaces hn) .nil
      | @cons _ c s t hst =>
        have hmargin : HasMargin t :=
          List.IsChain.suffix ht ((List.suffix_cons c t).trans (List.suffix_append _ _))
        rw [entriesFrom_cons_of_none rfl, entriesFrom_cons_of_none rfl]
        exact (ih s.length (Nat.lt_succ_self _) hst hmargin rfl).cons hn
    | some e =>
      have hless := length_of_entryHeadAt? hs
      rw [hs] at hhead
      cases ht' : entryHeadAt? b t with
      | none =>
        rw [ht'] at hhead
        cases hhead
      | some e' =>
        rw [ht'] at hhead
        have hwidens : e.Widens e' := by
          cases hhead
          assumption
        rw [entriesFrom_of_head hs, entriesFrom_of_head ht', hwidens.name_eq,
          hwidens.entriesFrom_eq]
        cases hnext : entryHeadAt? e.atLineStart e.rest with
        | none =>
          rw [entriesFrom_of_none hnext]
          exact (ih _ hless hwidens.rest hwidens.hasMargin rfl).entry e.name
            eq_nil_of_entriesFrom_false
        | some next =>
          -- the next entry begins right where the text of this one would
          have hne : e.rest ≠ [] := fun hnil => by
            rw [hnil] at hnext
            cases length_of_entryHeadAt? hnext
          rw [entriesFrom_of_head hnext]
          refine .swallowed (fun hfilled => ?_) ⟨e.name, _, List.mem_cons_self ..,
            List.mem_cons_self .., hwidens.allBlank_text hne⟩
          rcases filled_cons_iff.1 hfilled with hnil | ⟨hnil, -⟩
          · cases hnil
          · exact hnil rfl

/-! ## Sections behind a margin -/

/-- Entries with spaces in front of their lines are gathered alike. -/
theorem gatherEntries_widened (h : List.Forall₂ WidenedEntry es es')
    (found : List (String × String)) : gatherEntries found es' = gatherEntries found es := by
  induction h generalizing found with
  | nil => rfl
  | @cons x y es es' hxy _ ih =>
    obtain ⟨name, text⟩ := x
    obtain ⟨name', text'⟩ := y
    obtain ⟨rfl, htext⟩ := hxy
    rw [gatherEntries, gatherEntries, htext.relaxedChars_eq, ih]

/-- **What has been gathered** is found again, and so is each of the entries. -/
theorem lookup_of_gatherEntries {found all : List (String × String)}
    (h : gatherEntries found es = .ok all) :
    (∀ name text, found.lookup name = some text → all.lookup name = some text) ∧
      ∀ e ∈ es, all.lookup (.ofList e.1) = some (.ofList (relaxedChars e.2)) := by
  induction es generalizing found with
  | nil =>
    cases h
    exact ⟨fun _ _ h => h, fun _ h => nomatch h⟩
  | cons e es ih =>
    obtain ⟨name, text⟩ := e
    rw [gatherEntries] at h
    split at h
    · cases h
    · next hnew =>
      obtain ⟨hfound, hentries⟩ := ih h
      have hnone : found.lookup (.ofList name) = none := Option.not_isSome_iff_eq_none.1 hnew
      refine ⟨fun name' text' hlookup => hfound _ _ ?_,
        List.forall_mem_cons.2 ⟨hfound _ _ ?_, hentries⟩⟩
      · rw [List.lookup_append, hlookup, Option.some_or]
      · rw [List.lookup_append, hnone, Option.none_or, List.lookup_cons, beq_self_eq_true]

/-- **An arguments section that is read** documents arguments of the usage. -/
theorem of_readArguments {usage : Usage} {text : String} {docs : List ArgumentDoc}
    (h : readArguments usage text = .ok docs) :
    ∃ found, gatherEntries [] (entries text.toList) = .ok found ∧
      (∀ entry ∈ found, entry.1 ∈ usage.names) ∧
      usage.arguments.map (fun a => ⟨a.name, a.isRequired, (found.lookup a.name).getD ""⟩) =
        docs := by
  obtain ⟨found, hfound, h⟩ := except_bind_eq_ok_iff.1 h
  dsimp only at h
  split at h
  · cases h
  · split at h
    · next hsame =>
      cases h
      rw [sameMembers, Bool.and_eq_true, List.all_eq_true] at hsame
      exact ⟨found, hfound, fun entry hentry =>
        List.contains_iff_mem.1 (hsame.1 _ (List.mem_map_of_mem hentry)), rfl⟩
    · cases h

/-- What an entry has swallowed is read as its text. -/
theorem readArguments_ne_of_swallows {usage : Usage} {text text' : String} {docs : List ArgumentDoc}
    (h : readArguments usage text = .ok docs)
    (hswallows : Swallows (entries text.toList) (entries text'.toList)) :
    readArguments usage text' ≠ .ok docs := by
  intro h'
  obtain ⟨found, hfound, hnames, hdocs⟩ := of_readArguments h
  obtain ⟨found', hfound', -, hdocs'⟩ := of_readArguments h'
  obtain ⟨name, swallowed, hmem, hmem', hblank⟩ := hswallows
  have hempty := (lookup_of_gatherEntries hfound).2 _ hmem
  have hswallowed := (lookup_of_gatherEntries hfound').2 _ hmem'
  obtain ⟨before, after, hsplit, -⟩ := List.lookup_eq_some_iff.1 hempty
  have hentry : (String.ofList name, String.ofList (relaxedChars [])) ∈ found := by
    rw [hsplit]
    exact List.mem_append_right before (List.mem_cons_self ..)
  obtain ⟨a, ha, hname⟩ := List.mem_map.1 (hnames _ hentry)
  have hdoc := List.map_inj_left.1 (hdocs.trans hdocs'.symm) a ha
  rw [hname, hempty, hswallowed, ArgumentDoc.mk.injEq] at hdoc
  have htext := String.ofList_injective hdoc.2.2
  rw [allBlank_of_relaxedChars (htext.symm.trans joinLines_nil)] at hblank
  cases hblank

/-- **An arguments section can be indented without a change** exactly when every entry but the last
has a text.  An entry without one swallows what is below it. -/
theorem readArguments_behindMargin (usage : Usage) (text : String) (k : Nat) :
    (Filled (entries text.toList) →
      readArguments usage (.ofList (behindMargin k text.toList)) = readArguments usage text) ∧
    (0 < k → ∀ docs, readArguments usage text = .ok docs →
      (readArguments usage (.ofList (behindMargin k text.toList)) = .ok docs ↔
        Filled (entries text.toList))) := by
  have hwidened := widened_behindMargin k text.toList
  have hagree : 0 < k → Agree true (entriesFrom true text.toList)
      (entriesFrom true (behindMargin k text.toList)) := fun hk =>
    entriesFrom_widened hwidened (hasMargin_behindMargin hk _)
  have hsame : Filled (entries text.toList) →
      readArguments usage (.ofList (behindMargin k text.toList)) = readArguments usage text := by
    intro hfilled
    rcases Nat.eq_zero_or_pos k with rfl | hk
    · rw [behindMargin_zero, String.ofList_toList]
    · cases hagree hk with
      | same _ _ hentries =>
        rw [readArguments, readArguments, String.toList_ofList, hwidened.allBlank_eq, entries,
          gatherEntries_widened hentries]
        rfl
      | swallowed hnot _ => exact absurd hfilled hnot
  refine ⟨hsame, fun hk docs hdocs => ⟨fun h => ?_, fun hfilled => (hsame hfilled).trans hdocs⟩⟩
  cases hagree hk with
  | same hfilled _ _ => exact hfilled
  | swallowed _ hswallows =>
    refine absurd h (readArguments_ne_of_swallows hdocs ?_)
    rw [String.toList_ofList]
    exact hswallows

namespace Sample

/-- A usage of two arguments. -/
def pair : Usage := ⟨["cmd"], ["a", "b"], [], none, "Do."⟩

/-- A section that is read alike behind a margin, though its last entry has no text. -/
theorem readArguments_behindMargin_pair : Filled (entries "a: One\n  more.\n\nb:\n".toList) ∧
    readArguments pair (.ofList (behindMargin 3 "a: One\n  more.\n\nb:\n".toList)) =
      readArguments pair "a: One\n  more.\n\nb:\n" :=
  have hfilled : Filled (entries "a: One\n  more.\n\nb:\n".toList) := by decide +kernel
  ⟨hfilled, (readArguments_behindMargin pair _ 3).1 hfilled⟩

/-- **An entry without a text swallows the next** behind a margin. -/
theorem readArguments_swallowed :
    readArguments pair "a:\nb: x" = .ok [⟨"a", true, ""⟩, ⟨"b", true, "x"⟩] ∧
    behindMargin 2 "a:\nb: x".toList = "  a:\n  b: x".toList ∧
    readArguments pair "  a:\n  b: x" = .error (.mismatch "cmd" ["a", "b"] ["a"]) := by
  decide +kernel

end Sample

end CommandSpec.Docs
