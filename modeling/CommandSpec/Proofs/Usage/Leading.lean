import CommandSpec.Proofs.Usage.Grammar

/-!
# Proofs/Usage/Leading — blanks in front of a usage line

Blanks in front of a line are skipped, so they make no difference to what is read of it
(`readClause?_blank_append`), and no identifier opens with a blank
(`trimLeft_of_mem_ids`).  There is one exception.  Where a line opens a parenthesis that is never
closed (`IsUnclosed`), no clause is left once the blanks are skipped, and the last of them is taken
for the first character of a bare identifier.  Such a line is refused when nothing stands in front
of it, and may be read when a blank does.
-/

namespace CommandSpec.Usage

open Text

variable {s w rest : List Char} {clause : Clause}

/-! ## Lines whose parenthesis is never closed -/

theorem cutAt_eq_none_iff {stop : Char} : cutAt stop s = none ↔ stop ∉ s := by
  induction s with
  | nil => simp [cutAt]
  | cons c cs ih =>
    rw [cutAt]
    split
    · next hc => simp [hc]
    · next hc => simp [ih, Ne.symm hc]

/-- **A line whose parenthesis is never closed**: its first character that is no blank opens one,
and none is closed anywhere. -/
def IsUnclosed (s : List Char) : Prop := (trimLeft s).head? = some '(' ∧ ')' ∉ s

instance (s : List Char) : Decidable (IsUnclosed s) := inferInstanceAs (Decidable (_ ∧ _))

/-- Blanks in front of a line close no parenthesis. -/
theorem mem_trimLeft_iff {c : Char} (hc : isBlank c = false) : c ∈ trimLeft s ↔ c ∈ s := by
  obtain ⟨g, hg, hs⟩ := exists_blank_append_trimLeft s
  conv_rhs => rw [hs, List.mem_append, or_iff_right (not_mem_of_allBlank hg hc)]

theorem isUnclosed_iff :
    IsUnclosed s ↔ ∃ body, trimLeft s = '(' :: body ∧ cutAt ')' body = none := by
  rw [IsUnclosed, ← mem_trimLeft_iff (s := s) (by decide), List.head?_eq_some_iff]
  constructor
  · rintro ⟨⟨body, hs⟩, hmem⟩
    rw [hs] at hmem
    exact ⟨body, hs, cutAt_eq_none_iff.2 fun h => hmem (List.mem_cons_of_mem _ h)⟩
  · rintro ⟨body, hs, hcut⟩
    rw [hs]
    exact ⟨⟨body, rfl⟩, List.not_mem_cons_of_ne_of_not_mem (by decide) (cutAt_eq_none_iff.1 hcut)⟩

/-! ## The clause -/

theorem readClause?_of_isUnclosed (h : IsUnclosed s) : readClause? s = blankClause? s := by
  obtain ⟨body, hs, hcut⟩ := isUnclosed_iff.1 h
  exact readClause?_unclosed hs hcut

/-- The clause that is taken from the blanks in front is one identifier, which opens with a
blank. -/
theorem exists_of_blankClause? (h : blankClause? s = some (clause, rest)) :
    ∃ b, isBlank b = true ∧ clause.ids = [b :: (takeWord (trimLeft s)).1] := by
  obtain ⟨b, hb, heq⟩ := Option.map_eq_some_iff.1 h
  cases heq
  exact ⟨b, List.mem_takeWhile_imp (List.mem_of_mem_getLast? hb), rfl⟩

/-- The only identifier of a blank line would be blank. -/
theorem any_allBlank_of_allBlank (hblank : allBlank s = true)
    (hread : readClause? s = some (clause, rest)) : clause.ids.any allBlank = true := by
  rw [readClause?, trimLeft_eq_nil_iff.2 hblank] at hread
  obtain ⟨b, hb, hids⟩ := exists_of_blankClause? hread
  rw [hids, trimLeft_eq_nil_iff.2 hblank, List.any_cons, allBlank_cons, hb]
  rfl

/-- A line that is not blank opens its clause with a word, or with a parenthesis that is closed. -/
theorem clause_cases (hblank : allBlank s = false) (h : ¬IsUnclosed s) :
    (∃ body inside rest, trimLeft s = '(' :: body ∧ cutAt ')' body = some (inside, rest)) ∨
      ∃ c cs, trimLeft s = c :: cs ∧ c ≠ '(' := by
  cases hs : trimLeft s with
  | nil => simp [trimLeft_eq_nil_iff.1 hs] at hblank
  | cons c cs =>
    by_cases hc : c = '('
    · subst hc
      cases hcut : cutAt ')' cs with
      | none => exact absurd (isUnclosed_iff.2 ⟨cs, hs, hcut⟩) h
      | some found => exact .inl ⟨cs, found.1, found.2, rfl, hcut⟩
    · exact .inr ⟨c, cs, rfl, hc⟩

/-- **Blanks in front of a line make no difference to its clause.** -/
theorem readClause?_blank_append (hw : allBlank w = true) (hblank : allBlank s = false)
    (h : ¬IsUnclosed s) : readClause? (w ++ s) = readClause? s := by
  have ht : trimLeft (w ++ s) = trimLeft s := trimLeft_append_of_allBlank hw
  rcases clause_cases hblank h with ⟨body, inside, rest, hs, hcut⟩ | ⟨c, cs, hs, hc⟩
  · rw [readClause?_alternatives (ht.trans hs) hcut, readClause?_alternatives hs hcut]
  · rw [readClause?_bare (ht.trans hs) hc, readClause?_bare hs hc]

theorem isUnclosed_trimLeft : IsUnclosed (trimLeft s) ↔ IsUnclosed s := by
  rw [IsUnclosed, IsUnclosed, trimLeft_trimLeft, mem_trimLeft_iff (by decide)]

theorem readClause?_trimLeft_eq (hblank : allBlank s = false) (h : ¬IsUnclosed s) :
    readClause? (trimLeft s) = readClause? s := by
  obtain ⟨g, hg, hs⟩ := exists_blank_append_trimLeft s
  conv_rhs => rw [hs, readClause?_blank_append hg (allBlank_trimLeft.trans hblank)
    (mt isUnclosed_trimLeft.1 h)]

/-- **No identifier of a clause opens with a blank.** -/
theorem trimLeft_of_mem_ids (h : ¬IsUnclosed s) (hread : readClause? s = some (clause, rest))
    (hids : clause.ids.any allBlank = false) : ∀ id ∈ clause.ids, trimLeft id = id := by
  have hblank : allBlank s = false := Bool.eq_false_iff.2 fun hblank => by
    rw [any_allBlank_of_allBlank hblank hread] at hids
    cases hids
  have hline : ∀ c, (trimLeft s).head? = some c → isBlank c = false := by
    intro c hc
    obtain ⟨r, hr⟩ := List.head?_eq_some_iff.1 hc
    exact isBlank_head_trimLeft hr
  obtain ⟨f, hf, hclause, -⟩ :=
    exists_of_readClause? hline ((readClause?_trimLeft_eq hblank h).trans hread) hids
  rw [hclause]
  cases f with
  | bare word =>
    obtain ⟨c, cs, rfl⟩ := List.exists_cons_of_ne_nil hf.1
    exact List.forall_mem_singleton.2
      (trimLeft_cons_of_not_isBlank (hf.2.1 c List.mem_cons_self))
  | alternatives pieces => exact List.forall_mem_map.2 fun p _ => trimLeft_trim p

/-! ## The law of leading blanks -/

/-- **Two readings with the same outcome**: one usage in both, or a malformed usage in both. -/
def SameOutcome (r r' : Except UsageFault Usage) : Prop :=
  (∃ u, r = .ok u ∧ r' = .ok u) ∨
    ∃ e e', r = .error e ∧ r' = .error e' ∧ e.fault.kind = "UsageSyntaxError" ∧
      e'.fault.kind = "UsageSyntaxError"

theorem SameOutcome.of_eq {r r' : Except UsageFault Usage} (h : r = r') : SameOutcome r r' := by
  subst h
  cases r with
  | ok u => exact .inl ⟨u, rfl, rfl⟩
  | error e => exact .inr ⟨e, e, rfl, rfl, rfl, rfl⟩

/-- A blank line is no usage. -/
theorem exists_error_of_allBlank {line : String} (h : allBlank line.toList = true)
    (desc : String) : ∃ e, ofLine? line desc = .error e := by
  cases hread : ofLine? line desc with
  | error e => exact ⟨e, rfl⟩
  | ok u =>
    obtain ⟨clause, after, hclause, hids, -⟩ := ofLine?_eq_ok_iff.1 hread
    rw [any_allBlank_of_allBlank h hclause] at hids
    cases hids

/-- **Blanks in front of a line make no difference** to what is read of it. -/
theorem sameOutcome_blank_append {w line : String} (hw : allBlank w.toList = true)
    (h : ¬IsUnclosed line.toList) (desc : String) :
    SameOutcome (ofLine? (w ++ line) desc) (ofLine? line desc) := by
  cases hblank : allBlank line.toList with
  | true =>
    have hboth : allBlank (w ++ line).toList = true := by
      rw [String.toList_append, allBlank_append, hw, hblank]
      rfl
    obtain ⟨e, he⟩ := exists_error_of_allBlank hboth desc
    obtain ⟨e', he'⟩ := exists_error_of_allBlank hblank desc
    exact .inr ⟨e, e', he, he', rfl, rfl⟩
  | false =>
    refine .of_eq ?_
    rw [ofLine?, ofLine?, String.toList_append, readClause?_blank_append hw hblank h]

/-- No identifier of a usage opens with a blank. -/
theorem trimLeft_of_mem_ids_ofLine? {line desc : String} {u : Usage} (h : ¬IsUnclosed line.toList)
    (hread : ofLine? line desc = .ok u) : ∀ id ∈ u.ids, trimLeft id.toList = id.toList := by
  obtain ⟨clause, after, hclause, hids, -, -, rfl⟩ := ofLine?_eq_ok_iff.1 hread
  refine List.forall_mem_map.2 fun id hid => ?_
  rw [String.toList_ofList]
  exact trimLeft_of_mem_ids h hclause hids id hid

/-- The only identifier of a line whose parenthesis is never closed opens with a blank. -/
theorem exists_ids_of_isUnclosed {line desc : String} {u : Usage} (h : IsUnclosed line.toList)
    (hread : ofLine? line desc = .ok u) :
    ∃ b word, isBlank b = true ∧ u.ids = [String.ofList (b :: '(' :: word)] := by
  obtain ⟨clause, after, hclause, -, -, -, rfl⟩ := ofLine?_eq_ok_iff.1 hread
  rw [readClause?_of_isUnclosed h] at hclause
  obtain ⟨b, hb, hids⟩ := exists_of_blankClause? hclause
  obtain ⟨body, hs, -⟩ := isUnclosed_iff.1 h
  have hword : (takeWord ('(' :: body)).1 = '(' :: (takeWord body).1 := by
    simp only [takeWord, List.span_eq_takeWhile_dropWhile]
    rfl
  refine ⟨b, (takeWord body).1, hb, ?_⟩
  rw [gathered, hids, hs, hword]
  rfl

/-- **Blanks in front of a usage line make no difference, and no identifier opens with one**, unless
the line opens a parenthesis that is never closed.  Then it is refused where nothing stands in front
of it, and where it is read after a blank its only identifier opens with that blank. -/
theorem ofLine?_blank_append {w : String} (hw : allBlank w.toList = true) (line desc : String) :
    (¬IsUnclosed line.toList →
      SameOutcome (ofLine? (w ++ line) desc) (ofLine? line desc) ∧
        ∀ u, ofLine? (w ++ line) desc = .ok u → ∀ id ∈ u.ids, trimLeft id.toList = id.toList) ∧
    (IsUnclosed line.toList →
      (trimLeft line.toList = line.toList → ofLine? line desc = .error .noIdentifier) ∧
        ∀ u, ofLine? (w ++ line) desc = .ok u →
          ∃ b word, isBlank b = true ∧ u.ids = [String.ofList (b :: '(' :: word)]) := by
  have hunclosed : IsUnclosed (w ++ line).toList ↔ IsUnclosed line.toList := by
    rw [← isUnclosed_trimLeft, String.toList_append, trimLeft_append_of_allBlank hw,
      isUnclosed_trimLeft]
  refine ⟨fun h => ⟨?_, fun u hu => ?_⟩, fun h => ⟨fun hfront => ?_, fun u hu => ?_⟩⟩
  · exact sameOutcome_blank_append hw h desc
  · exact trimLeft_of_mem_ids_ofLine? (mt hunclosed.1 h) hu
  · rw [ofLine?, readClause?_of_isUnclosed h, blankClause?, takeWhile_isBlank_of_trimLeft hfront]
    rfl
  · exact exists_ids_of_isUnclosed (hunclosed.2 h) hu

/-- A line that is read alike with blanks of several kinds in front. -/
theorem ofLine?_blank_append_push :
    allBlank "\t \u3000".toList = true ∧ ¬IsUnclosed "(push|p) <branch>".toList ∧
      SameOutcome (ofLine? "\t \u3000(push|p) <branch>" "Push.")
        (ofLine? "(push|p) <branch>" "Push.") :=
  have hw : allBlank "\t \u3000".toList = true := by decide
  have hclosed : ¬IsUnclosed "(push|p) <branch>".toList := by decide
  ⟨hw, hclosed, ((ofLine?_blank_append hw "(push|p) <branch>" "Push.").1 hclosed).1⟩

/-- **A blank in front of a parenthesis that is never closed makes a difference**: it becomes part
of the identifier of a line that is no usage without it. -/
theorem ofLine?_unclosed :
    allBlank " ".toList = true ∧
      ofLine? " (push" "Push." = .ok ⟨[" (push"], [], [], none, "Push."⟩ ∧
      ofLine? "(push" "Push." = .error .noIdentifier := by
  decide +kernel

end CommandSpec.Usage
