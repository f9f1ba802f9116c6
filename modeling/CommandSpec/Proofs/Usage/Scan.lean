import CommandSpec.Proofs.Text.Blank
import CommandSpec.Proofs.Usage.Form
import Mathlib.Data.List.TakeDrop

/-!
# Proofs/Usage/Scan — each scan reads its part of a form

A scan in front of an admissible part reads that part and stops behind it, and whatever a scan has
read is an admissible part.  No text is at once a plain argument and a rest argument
(`readArgument?_rest`), so the scan of the plain arguments stops where the grammar says, and not
before.
-/

namespace CommandSpec.Usage

open Text

variable {s rest : List Char} {b : Bool}

/-! ## Brackets -/

theorem isBlank_opening (b : Bool) : isBlank (opening b) = false := by cases b <;> rfl

theorem isBlank_closing (b : Bool) : isBlank (closing b) = false := by cases b <;> rfl

theorem opening_injective {b b' : Bool} (h : opening b = opening b') : b = b' := by
  cases b <;> cases b' <;> first | rfl | exact absurd h (by decide)

theorem cutAt_append_cons {stop : Char} :
    ∀ {before : List Char}, stop ∉ before → ∀ after,
      cutAt stop (before ++ stop :: after) = some (before, after)
  | [], _, after => by rw [List.nil_append, cutAt, if_pos rfl]
  | c :: cs, h, after => by
    obtain ⟨hc, hcs⟩ : stop ≠ c ∧ stop ∉ cs := by simpa using h
    rw [List.cons_append, cutAt, if_neg (Ne.symm hc), cutAt_append_cons hcs after]
    rfl

/-! ## Plain arguments -/

theorem isPlainName_iff {name : List Char} :
    isPlainName name = true ↔ name.length ≤ 2 ∨ '.' ∉ name.drop (name.length - 3) := by
  simp [isPlainName]

/-- **An admissible argument is read** and left behind. -/
theorem readArgument?_text {a : ArgumentForm} (ha : a.IsAdmissible b) (s : List Char) :
    readArgument? (opening b) (closing b) (a.text b ++ s) = some (a.name, s) := by
  have ht : trimLeft (a.text b ++ s) = opening b :: (a.name ++ closing b :: s) := by
    rw [ArgumentForm.text, List.append_assoc, trimLeft_append_of_allBlank ha.blank_gap,
      List.cons_append, trimLeft_cons_of_not_isBlank (isBlank_opening b)]
    simp
  rw [readArgument?, ht]
  simp only [if_true, cutAt_append_cons ha.closing_not_mem]
  rw [if_pos (isPlainName_iff.2 ha.short_or_no_period)]

/-- **What is read is an admissible argument.** -/
theorem exists_of_readArgument? {name : List Char}
    (h : readArgument? (opening b) (closing b) s = some (name, rest)) :
    ∃ a : ArgumentForm, a.IsAdmissible b ∧ a.name = name ∧ s = a.text b ++ rest := by
  obtain ⟨g, hg, hs⟩ := exists_blank_append_trimLeft s
  have ht := readArgument?_eq_some h
  unfold readArgument? at h
  rw [ht] at h
  simp only [List.cons_append, if_true] at h
  split at h
  · next n r hcut =>
    split at h
    · next hname =>
      obtain ⟨rfl, rfl⟩ := by simpa using h
      refine ⟨⟨g, n⟩, ⟨hg, (cutAt_eq_some hcut).2, isPlainName_iff.1 hname⟩, rfl, ?_⟩
      rw [hs, ht, ArgumentForm.text]
      simp
    · simp at h
  · simp at h

/-- No argument is read where none is spelled. -/
theorem readArgument?_of_head_ne {c : Char} {cs : List Char} (ht : trimLeft s = c :: cs)
    (hc : c ≠ opening b) : readArgument? (opening b) (closing b) s = none := by
  rw [readArgument?, ht]
  exact if_neg hc

theorem readArgument?_of_allBlank (hs : allBlank s = true) :
    readArgument? (opening b) (closing b) s = none := by
  rw [readArgument?, trimLeft_eq_nil_iff.2 hs]

theorem readArguments_of_none (h : readArgument? (opening b) (closing b) s = none) :
    readArguments (opening b) (closing b) s = ([], s) := by
  rw [readArguments]
  split
  · rfl
  · next h' => rw [h] at h'; cases h'

theorem readArguments_of_some {name : List Char}
    (h : readArgument? (opening b) (closing b) s = some (name, rest)) :
    readArguments (opening b) (closing b) s
      = (name :: (readArguments (opening b) (closing b) rest).1,
        (readArguments (opening b) (closing b) rest).2) := by
  rw [readArguments]
  split
  · next h' => rw [h] at h'; cases h'
  · next n r h' =>
    rw [h] at h'
    cases h'
    rfl

/-- **Admissible arguments are all read**, as far as they go. -/
theorem readArguments_text (hs : readArgument? (opening b) (closing b) s = none) :
    ∀ {as : List ArgumentForm}, (∀ a ∈ as, a.IsAdmissible b) →
      readArguments (opening b) (closing b) (as.flatMap (ArgumentForm.text b) ++ s)
        = (as.map (·.name), s)
  | [], _ => readArguments_of_none hs
  | a :: as, ha => by
    rw [List.flatMap_cons, List.append_assoc,
      readArguments_of_some (readArgument?_text (ha a (List.mem_cons_self ..)) _),
      readArguments_text hs fun a' h => ha a' (List.mem_cons_of_mem a h)]
    rfl

/-- **What is read are admissible arguments**, behind which no other stands. -/
theorem exists_of_readArguments (s : List Char) :
    ∃ as : List ArgumentForm, (∀ a ∈ as, a.IsAdmissible b) ∧
      (readArguments (opening b) (closing b) s).1 = as.map (·.name) ∧
      s = as.flatMap (ArgumentForm.text b) ++ (readArguments (opening b) (closing b) s).2 := by
  cases h : readArgument? (opening b) (closing b) s with
  | none =>
    rw [readArguments_of_none h]
    exact ⟨[], by simp, rfl, rfl⟩
  | some nr =>
    obtain ⟨name, rest⟩ := nr
    have : rest.length < s.length := length_of_readArgument? h
    obtain ⟨a, ha, rfl, hs⟩ := exists_of_readArgument? h
    obtain ⟨as, has, hnames, hrest⟩ := exists_of_readArguments rest
    rw [readArguments_of_some h]
    refine ⟨a :: as, ?_, ?_, ?_⟩
    · intro a' h'
      rcases List.mem_cons.1 h' with rfl | h'
      · exact ha
      · exact has a' h'
    · rw [List.map_cons, ← hnames]
    · rw [List.flatMap_cons, List.append_assoc, ← hrest, ← hs]
termination_by s.length

/-! ## The rest argument -/

theorem dropEllipsis?_append (name : List Char) (h : name ≠ []) :
    dropEllipsis? (name ++ RestForm.ellipsis) = some name := by
  have hlen : (name ++ RestForm.ellipsis).length = name.length + 3 := List.length_append
  have hpos : 0 < name.length := List.length_pos_iff.2 h
  rw [dropEllipsis?, hlen, Nat.add_sub_cancel, List.drop_left, List.take_left, if_pos]
  simp [RestForm.ellipsis, hpos]

theorem eq_of_dropEllipsis? {name : List Char} (h : dropEllipsis? s = some name) :
    s = name ++ RestForm.ellipsis ∧ name ≠ [] := by
  rw [dropEllipsis?] at h
  split at h
  · next hs =>
    obtain ⟨hlen, hdrop⟩ : 3 < s.length ∧ s.drop (s.length - 3) = ['.', '.', '.'] := by
      simpa using hs
    obtain rfl := Option.some.inj h
    refine ⟨?_, fun hn => ?_⟩
    · rw [RestForm.ellipsis, ← hdrop, List.take_append_drop]
    · have := congrArg List.length hn
      rw [List.length_take, List.length_nil] at this
      omega
  · cases h

theorem closing_not_mem_ellipsis (b : Bool) : closing b ∉ RestForm.ellipsis := by
  cases b <;> decide

theorem restBefore?_eq_some_iff {found : RestArgument} {after : List Char} :
    restBefore? (closing b) b s = some (found, after)
      ↔ ∃ name, cutAt (closing b) s = some (name ++ RestForm.ellipsis, after) ∧ name ≠ [] ∧
        found = ⟨.ofList name, b⟩ := by
  rw [restBefore?]
  constructor
  · intro h
    split at h
    · next inside rest hcut =>
      obtain ⟨name, hname, he⟩ := Option.map_eq_some_iff.1 h
      obtain ⟨rfl, rfl⟩ := by simpa using he
      obtain ⟨rfl, hne⟩ := eq_of_dropEllipsis? hname
      exact ⟨name, hcut, hne, rfl⟩
    · cases h
  · rintro ⟨name, hcut, hne, rfl⟩
    rw [hcut]
    simp [dropEllipsis?_append name hne]

/-- The scan of the rest argument goes by the bracket that opens it. -/
theorem readRest_of_trimLeft {cs : List Char} (ht : trimLeft s = opening b :: cs) :
    readRest s = ((restBefore? (closing b) b cs).map fun found => (some found.1, found.2)).getD
      (none, s) := by
  rw [readRest, ht]
  cases b with
  | true =>
    simp only [opening, closing, if_true]
    cases restBefore? '>' true cs <;> rfl
  | false =>
    simp only [opening, closing, Bool.false_eq_true, if_false]
    cases restBefore? ']' false cs <;> rfl

section Rest

variable {r : RestForm} (hr : r.IsAdmissible)
include hr

theorem trimLeft_rest (s : List Char) :
    trimLeft (r.text ++ s)
      = opening r.isRequired :: (r.name ++ RestForm.ellipsis ++ closing r.isRequired :: s) := by
  rw [RestForm.text, List.append_assoc, trimLeft_append_of_allBlank hr.blank_gap, List.cons_append,
    trimLeft_cons_of_not_isBlank (isBlank_opening _)]
  simp

theorem cutAt_rest (s : List Char) :
    cutAt (closing r.isRequired) (r.name ++ RestForm.ellipsis ++ closing r.isRequired :: s)
      = some (r.name ++ RestForm.ellipsis, s) :=
  cutAt_append_cons (fun h => (List.mem_append.1 h).elim hr.closing_not_mem
    (closing_not_mem_ellipsis _)) s

/-- **A rest argument is no plain argument**: the ellipsis puts periods among the last three
characters of a name that is longer than two. -/
theorem readArgument?_rest (b : Bool) (s : List Char) :
    readArgument? (opening b) (closing b) (r.text ++ s) = none := by
  by_cases hb : r.isRequired = b
  · subst hb
    have hplain : isPlainName (r.name ++ RestForm.ellipsis) = false := by
      rw [Bool.eq_false_iff, ne_eq, isPlainName_iff, List.length_append]
      have hdrop : (r.name ++ RestForm.ellipsis).drop (r.name.length + RestForm.ellipsis.length - 3)
          = RestForm.ellipsis := List.drop_left
      have hpos := List.length_pos_iff.2 hr.name_ne_nil
      rintro (hlen | hperiod)
      · simp only [RestForm.ellipsis, List.length_cons, List.length_nil] at hlen
        omega
      · rw [hdrop] at hperiod
        exact hperiod (by decide)
    rw [readArgument?, trimLeft_rest hr]
    simp only [if_true, cutAt_rest hr]
    rw [hplain]
    rfl
  · exact readArgument?_of_head_ne (trimLeft_rest hr s) fun h => hb (opening_injective h)

/-- **A rest argument is read** and left behind. -/
theorem readRest_text (s : List Char) : readRest (r.text ++ s) = (some r.argument, s) := by
  rw [readRest_of_trimLeft (trimLeft_rest hr s), restBefore?_eq_some_iff.2
    ⟨r.name, cutAt_rest hr s, hr.name_ne_nil, rfl⟩]
  rfl

end Rest

/-- No rest argument is read where no bracket opens. -/
theorem readRest_of_not_opening (h : ¬∃ b cs, trimLeft s = opening b :: cs) :
    readRest s = (none, s) := by
  rw [readRest]
  split
  · next hrest =>
    split at hrest
    · next cs ht => exact absurd ⟨true, cs, ht⟩ h
    · next cs ht => exact absurd ⟨false, cs, ht⟩ h
    · cases hrest
  · rfl

theorem readRest_of_allBlank (hs : allBlank s = true) : readRest s = (none, s) := by
  rw [readRest, trimLeft_eq_nil_iff.2 hs]

/-- **What is read is an admissible rest argument**; where nothing is read, all is left. -/
theorem exists_of_readRest (s : List Char) :
    ∃ (r : Option RestForm) (after : List Char), (∀ r' ∈ r, r'.IsAdmissible) ∧
      readRest s = (r.map RestForm.argument, after) ∧ s = r.elim [] RestForm.text ++ after := by
  by_cases h : ∃ b cs, trimLeft s = opening b :: cs
  · obtain ⟨b, cs, ht⟩ := h
    rw [readRest_of_trimLeft ht]
    cases hfound : restBefore? (closing b) b cs with
    | none => exact ⟨none, s, by simp, rfl, rfl⟩
    | some found =>
      obtain ⟨name, hcut, hne, hname⟩ := restBefore?_eq_some_iff.1 hfound
      obtain ⟨g, hg, hs⟩ := exists_blank_append_trimLeft s
      obtain ⟨hcs, hclosing⟩ := cutAt_eq_some hcut
      refine ⟨some ⟨g, name, b⟩, found.2, ?_, ?_, ?_⟩
      · rintro r ⟨⟩
        exact ⟨hg, fun h => hclosing (List.mem_append_left _ h), hne⟩
      · rw [Option.map_some, Option.getD_some, hname]
        rfl
      · rw [hs, ht, hcs, Option.elim_some, RestForm.text]
        simp
  · exact ⟨none, s, by simp, readRest_of_not_opening h, rfl⟩

/-! ## The identifier clause -/

theorem takeWord_append {word : List Char} (hw : ∀ c ∈ word, isBlank c = false)
    (hs : EndsWord s) : takeWord (word ++ s) = (word, s) := by
  rw [takeWord, List.span_eq_takeWhile_dropWhile, takeWhile_append_of_word hw hs,
    dropWhile_append_of_word hw hs]

/-- The word in front of a text, with what follows it. -/
theorem takeWord_spec (s : List Char) :
    s = (takeWord s).1 ++ (takeWord s).2 ∧ (∀ c ∈ (takeWord s).1, isBlank c = false) ∧
      EndsWord (takeWord s).2 := by
  rw [takeWord, List.span_eq_takeWhile_dropWhile]
  refine ⟨List.takeWhile_append_dropWhile.symm, fun c hc => ?_, endsWord_dropWhile s⟩
  simpa using List.mem_takeWhile_imp hc

/-! Which clause is read goes by what stands behind the blanks in front. -/

theorem readClause?_bare {c : Char} {cs : List Char} (ht : trimLeft s = c :: cs) (hp : c ≠ '(') :
    readClause? s = some (bareClause (takeWord (c :: cs)).1, (takeWord (c :: cs)).2) := by
  rw [readClause?, ht]
  split
  · next h => cases h
  · next h => cases h; exact absurd rfl hp
  · next h => cases h; rfl

theorem readClause?_alternatives {body inside : List Char} (ht : trimLeft s = '(' :: body)
    (h : cutAt ')' body = some (inside, rest)) :
    readClause? s = some (⟨(splitAt '|' inside).map trim, '(' :: inside ++ [')']⟩, rest) := by
  rw [readClause?, ht]
  simp only [h]

theorem readClause?_unclosed {body : List Char} (ht : trimLeft s = '(' :: body)
    (h : cutAt ')' body = none) : readClause? s = blankClause? s := by
  rw [readClause?, ht]
  simp only [h]

theorem ids_ne_nil_of_readClause? {clause : Clause} (h : readClause? s = some (clause, rest)) :
    clause.ids ≠ [] := by
  have hblank : blankClause? s = some (clause, rest) → clause.ids ≠ [] := by
    intro h
    obtain ⟨b, -, hb⟩ := Option.map_eq_some_iff.1 h
    cases hb
    exact List.cons_ne_nil _ _
  rw [readClause?] at h
  split at h
  · exact hblank h
  · split at h
    · exact hblank h
    · cases h
      exact fun hids => splitAt_ne_nil _ _ (List.map_eq_nil_iff.1 hids)
  · cases h
    exact List.cons_ne_nil _ _

/-- **An admissible clause is read** and left behind. -/
theorem readClause?_text {f : ClauseForm} (hf : f.IsAdmissible s) :
    ∃ clause, readClause? (f.text ++ s) = some (clause, s) ∧ clause.ids = f.ids := by
  cases f with
  | bare word =>
    obtain ⟨hne, hblank, hhead, hs⟩ := hf
    cases word with
    | nil => exact absurd rfl hne
    | cons c cs =>
      have hword : takeWord (c :: (cs ++ s)) = (c :: cs, s) := takeWord_append hblank hs
      refine ⟨bareClause (c :: cs), ?_, rfl⟩
      rw [ClauseForm.text, List.cons_append, readClause?_bare (trimLeft_cons_of_not_isBlank
        (hblank c (List.mem_cons_self ..))) fun h => hhead (congrArg some h), hword]
  | alternatives pieces =>
    obtain ⟨hne, hp⟩ := hf
    have hclose : ')' ∉ ['|'].intercalate pieces := fun h => by
      rcases mem_intercalate_singleton h with h | ⟨p, hpieces, h⟩
      · exact absurd h (by decide)
      · exact (hp p hpieces).1 h
    refine ⟨⟨pieces.map trim, '(' :: ['|'].intercalate pieces ++ [')']⟩, ?_, rfl⟩
    rw [ClauseForm.text, List.append_assoc, List.cons_append, List.singleton_append,
      readClause?_alternatives (trimLeft_cons_of_not_isBlank rfl) (cutAt_append_cons hclose s),
      splitAt_intercalate hne fun p h => (hp p h).2.1]

/-- Alternatives up to a closing parenthesis are admissible, if none is blank. -/
theorem isAdmissible_alternatives {inside cs : List Char}
    (hcut : cutAt ')' cs = some (inside, rest))
    (hids : ((splitAt '|' inside).map trim).any allBlank = false) :
    (ClauseForm.alternatives (splitAt '|' inside)).IsAdmissible rest ∧
      '(' :: cs = (ClauseForm.alternatives (splitAt '|' inside)).text ++ rest := by
  obtain ⟨rfl, hclose⟩ := cutAt_eq_some hcut
  refine ⟨⟨splitAt_ne_nil _ _, fun p hp => ⟨fun hmem => hclose ?_, not_mem_of_mem_splitAt hp, ?_⟩⟩,
    ?_⟩
  · rw [← intercalate_splitAt '|' inside]
    exact mem_intercalate_of_mem hp hmem
  · have hall := List.any_eq_false.1 hids (trim p) (List.mem_map_of_mem (f := trim) hp)
    simpa using hall
  · rw [ClauseForm.text, intercalate_splitAt]
    simp

/-- The word in front of a text that opens with no blank and no parenthesis is admissible. -/
theorem isAdmissible_bare {c : Char} {cs : List Char} (hc : isBlank c = false) (hp : c ≠ '(') :
    (ClauseForm.bare (takeWord (c :: cs)).1).IsAdmissible (takeWord (c :: cs)).2 := by
  obtain ⟨hword, hblank, hafter⟩ := takeWord_spec (c :: cs)
  cases hw : (takeWord (c :: cs)).1 with
  | nil =>
    rw [hw, List.nil_append] at hword
    exact absurd (hafter c (by rw [← hword]; rfl)) (by simp [hc])
  | cons d ds =>
    rw [hw] at hword hblank
    obtain rfl : c = d := (List.cons.inj hword).1
    exact ⟨List.cons_ne_nil c ds, hblank, fun h => hp (Option.some.inj h), hafter⟩

/-- **What is read of a line that opens with no blank is an admissible clause**, if none of its
alternatives is blank. -/
theorem exists_of_readClause? {clause : Clause}
    (hs : ∀ c, s.head? = some c → isBlank c = false)
    (h : readClause? s = some (clause, rest)) (hids : clause.ids.any allBlank = false) :
    ∃ f : ClauseForm, f.IsAdmissible rest ∧ clause.ids = f.ids ∧ s = f.text ++ rest := by
  cases s with
  | nil => simp [readClause?, trimLeft, blankClause?] at h
  | cons c cs =>
    have hc := hs c rfl
    have ht : trimLeft (c :: cs) = c :: cs := trimLeft_cons_of_not_isBlank hc
    by_cases hp : c = '('
    · subst hp
      cases hcut : cutAt ')' cs with
      | none =>
        rw [readClause?_unclosed ht hcut] at h
        simp [blankClause?, hc] at h
      | some found =>
        obtain ⟨inside, after⟩ := found
        rw [readClause?_alternatives ht hcut] at h
        obtain ⟨rfl, rfl⟩ := by simpa using h
        obtain ⟨hadmissible, htext⟩ := isAdmissible_alternatives hcut hids
        exact ⟨_, hadmissible, rfl, htext⟩
    · rw [readClause?_bare ht hp] at h
      obtain ⟨rfl, rfl⟩ := by simpa using h
      exact ⟨_, isAdmissible_bare hc hp, rfl, (takeWord_spec (c :: cs)).1⟩

end CommandSpec.Usage
