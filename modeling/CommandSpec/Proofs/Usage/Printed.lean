import CommandSpec.Fold.Plain
import CommandSpec.Proofs.Usage.Grammar

/-!
# Proofs/Usage/Printed — a printed usage is the normal form of its line

A usage is printed as the line of a form (`Form.text_printed`): the clause that its identifiers
need, one space in front of each argument, and nothing behind the last.  That form is admissible and
declares the same usage (`Form.isAdmissible_printed`, `Form.usage_printed`), so the printed line is
read back, and printing what has been read changes nothing.

Two identifiers are out of reach of a printed clause: one that opens with a parenthesis, which would
be read as the clause's own, and one that opens with a blank, which the reader takes from an
unclosed clause only.
-/

namespace CommandSpec.Usage

open Text

/-- A text opens with neither a parenthesis nor a blank. -/
def OpensBare (s : List Char) : Prop := ∀ c ∈ s.head?, c ≠ '(' ∧ isBlank c = false

theorem opensBare_nil : OpensBare [] := nofun

theorem opensBare_cons {c : Char} {s : List Char} :
    OpensBare (c :: s) ↔ c ≠ '(' ∧ isBlank c = false := by
  simp [OpensBare]

instance : (s : List Char) → Decidable (OpensBare s)
  | [] => isTrue opensBare_nil
  | _ :: _ => decidable_of_iff _ opensBare_cons.symm

/-! ## The clause that identifiers need -/

theorem trim_trim (s : List Char) : trim (trim s) = trim s := by
  rw [trim, trimLeft_trim, trimRight_trim]

namespace ClauseForm

/-- Identifiers as a clause: a single one stands bare, unless there is a blank in it. -/
def ofIds : List (List Char) → ClauseForm
  | [id] => if id = [] ∨ id.any isBlank = true then alternatives [id] else bare id
  | ids => alternatives ids

variable {f : ClauseForm} {after after' : List Char}

/-- **Identifiers are printed as their clause.** -/
theorem text_ofIds (ids : List (List Char)) :
    (ofIds ids).text = (Usage.clause (ids.map String.ofList)).toList := by
  match ids with
  | [] => rfl
  | [id] =>
    simp only [ofIds, List.map_cons, List.map_nil, Usage.clause, String.toList_ofList,
      Bool.or_eq_true, decide_eq_true_eq, ← String.toList_inj, String.toList_empty]
    split <;> simp [text]
  | id :: id' :: ids =>
    simp [ofIds, text, Usage.clause, String.toList_intercalate, Function.comp_def]

theorem ofIds_of_bare (hf : (bare word).IsAdmissible after) : ofIds [word] = bare word := by
  refine if_neg fun h => h.elim hf.1 fun h => ?_
  obtain ⟨c, hc, hblank⟩ := List.any_eq_true.1 h
  exact absurd (hf.2.1 c hc) (by simp [hblank])

/-- Identifiers stand as alternatives, or as a bare word if there is a single one without blanks. -/
theorem ofIds_cases (ids : List (List Char)) :
    ofIds ids = alternatives ids ∨
      ∃ id, ids = [id] ∧ id ≠ [] ∧ (∀ c ∈ id, isBlank c = false) ∧ ofIds ids = bare id := by
  match ids with
  | [] => exact .inl rfl
  | [id] =>
    by_cases h : id = [] ∨ id.any isBlank = true
    · exact .inl (if_pos h)
    · obtain ⟨hne, hblank⟩ := not_or.1 h
      exact .inr ⟨id, rfl, hne, by simpa using hblank, if_neg h⟩
  | id :: id' :: ids => exact .inl rfl

/-- **A clause of its own identifiers declares the same ones.** -/
theorem ids_ofIds (hf : f.IsAdmissible after) : (ofIds f.ids).ids = f.ids := by
  cases f with
  | bare word => rw [ids, ofIds_of_bare hf, ids]
  | alternatives pieces =>
    rcases ofIds_cases (alternatives pieces).ids with h | ⟨id, hid, -, -, h⟩
    · rw [h, ids, ids, List.map_map]
      exact List.map_congr_left fun p _ => trim_trim p
    · rw [h, hid, ids]

/-- **A clause of its own identifiers is admissible** in front of a blank, if the first of them
opens with no parenthesis. -/
theorem isAdmissible_ofIds (hf : f.IsAdmissible after) (hid : ∀ id ∈ f.ids.head?, OpensBare id)
    (hafter : EndsWord after') :
    (ofIds f.ids).IsAdmissible after' := by
  cases f with
  | bare word =>
    rw [ids, ofIds_of_bare hf]
    exact ⟨hf.1, hf.2.1, hf.2.2.1, hafter⟩
  | alternatives pieces =>
    rcases ofIds_cases (alternatives pieces).ids with h | ⟨id, hids, hne, hblank, h⟩
    · rw [h, ids]
      refine ⟨fun hnil => hf.1 (List.map_eq_nil_iff.1 hnil), fun q hq => ?_⟩
      obtain ⟨p, hp, rfl⟩ := List.mem_map.1 hq
      obtain ⟨hclose, hbar, hall⟩ := hf.2 p hp
      exact ⟨fun h => hclose (mem_of_mem_trim h), fun h => hbar (mem_of_mem_trim h),
        allBlank_trim.trans hall⟩
    · rw [h]
      have hopen : OpensBare id := hid id (by rw [hids]; rfl)
      exact ⟨hne, hblank, fun h => (hopen '(' h).1 rfl, hafter⟩

end ClauseForm

/-! ## One space in front of each argument -/

/-- An argument as it is printed. -/
def ArgumentForm.printed (a : ArgumentForm) : ArgumentForm := ⟨[' '], a.name⟩

/-- A rest argument as it is printed. -/
def RestForm.printed (r : RestForm) : RestForm := ⟨[' '], r.name, r.isRequired⟩

/-- The spelling of an argument, after a space. -/
def spaced (a : ArgumentUsage) : List Char :=
  ' ' :: (ArgumentUsage.spelling a.name a.isRequired a.isRest).toList

theorem ArgumentForm.text_printed (b : Bool) (a : ArgumentForm) :
    a.printed.text b = spaced ⟨.ofList a.name, b, false⟩ := by
  cases b <;> simp [printed, text, spaced, ArgumentUsage.spelling, opening, closing]

theorem RestForm.text_printed (r : RestForm) :
    r.printed.text = spaced ⟨.ofList r.name, r.isRequired, true⟩ := by
  cases hr : r.isRequired <;>
    simp [printed, text, spaced, ArgumentUsage.spelling, opening, closing, ellipsis, hr]

/-- Texts that are joined by a space: the first, and each other after a space. -/
theorem intercalate_space (s : List Char) (ss : List (List Char)) :
    [' '].intercalate (s :: ss) = s ++ ss.flatMap (' ' :: ·) := by
  induction ss generalizing s with
  | nil => simp
  | cons t ts ih => rw [List.intercalate_cons_cons, ih]; simp

/-- A printed line is its clause and its arguments, a space in front of each. -/
theorem toList_line (u : Usage) :
    u.line.toList = (Usage.clause u.ids).toList ++ u.arguments.flatMap spaced := by
  rw [Usage.line, String.toList_intercalate, List.map_cons, List.map_map]
  exact (intercalate_space _ _).trans (congrArg _ (by rw [List.flatMap_map]; rfl))

/-! ## The printed form -/

namespace Form

/-- **The form in which the usage of a form is printed.** -/
def printed (f : Form) : Form where
  clause := .ofIds f.clause.ids
  required := f.required.map ArgumentForm.printed
  optional := f.optional.map ArgumentForm.printed
  rest := f.rest.map RestForm.printed
  trailing := []

theorem afterClause_printed (f : Form) (desc : String) :
    f.printed.afterClause = (f.usage desc).arguments.flatMap spaced := by
  rw [afterClause, afterRequired, afterOptional]
  cases hr : f.rest <;>
    simp [printed, usage, arguments, List.flatMap_map, ArgumentForm.text_printed,
      RestForm.text_printed, RestForm.argument, hr]

theorem text_printed (f : Form) (desc : String) :
    f.printed.text = (f.usage desc).line.toList := by
  rw [toList_line, text, afterClause_printed f desc]
  exact congrArg (· ++ _) (ClauseForm.text_ofIds f.clause.ids)

theorem names_printed (f : Form) : f.printed.names = f.names := by
  cases hr : f.rest <;>
    simp [printed, names, ArgumentForm.printed, RestForm.printed, Function.comp_def, hr]

/-- Behind a printed clause stands a space, or nothing. -/
theorem endsWord_afterClause_printed (f : Form) : EndsWord f.printed.afterClause := by
  intro c hc
  rw [afterClause_printed f ""] at hc
  cases ha : (f.usage "").arguments with
  | nil => simp [ha] at hc
  | cons a as =>
    rw [ha] at hc
    obtain rfl : ' ' = c := Option.some.inj hc
    rfl

variable {f : Form}

/-- **The printed form is admissible**, if the canonical identifier opens with no parenthesis. -/
theorem isAdmissible_printed (hf : f.IsAdmissible)
    (hid : ∀ id ∈ f.clause.ids.head?, OpensBare id) : f.printed.IsAdmissible where
  clause := ClauseForm.isAdmissible_ofIds hf.clause hid f.endsWord_afterClause_printed
  required := List.forall_mem_map.2 fun a ha =>
    ⟨rfl, (hf.required a ha).closing_not_mem, (hf.required a ha).short_or_no_period⟩
  optional := List.forall_mem_map.2 fun a ha =>
    ⟨rfl, (hf.optional a ha).closing_not_mem, (hf.optional a ha).short_or_no_period⟩
  rest := by
    intro _ hprinted
    obtain ⟨r, hr, rfl⟩ := Option.map_eq_some_iff.1 hprinted
    exact ⟨rfl, (hf.rest r hr).closing_not_mem, (hf.rest r hr).name_ne_nil⟩
  trailing := rfl
  nodup_names := f.names_printed ▸ hf.nodup_names

/-- **The printed form declares the same usage.** -/
theorem usage_printed (hf : f.IsAdmissible) (desc : String) :
    f.printed.usage desc = f.usage desc := by
  rw [usage, usage, printed, ClauseForm.ids_ofIds hf.clause, List.map_map, List.map_map,
    Option.map_map]
  rfl

end Form

/-! ## Blanks in front of a line -/

/-- The canonical identifier is the first one. -/
theorem opensBare_of_canonical {u : Usage} {ids : List (List Char)}
    (hu : u.ids = ids.map String.ofList) (hid : OpensBare u.canonical.toList) :
    ∀ id ∈ ids.head?, OpensBare id := by
  intro id hmem
  rwa [canonical, hu, List.headD_eq_head?_getD, List.head?_map, Option.mem_def.1 hmem,
    Option.map_some, Option.getD_some, String.toList_ofList] at hid

/-- **Blanks in front of a clause make no difference**, unless its first identifier is taken from
them. -/
theorem readClause?_trimLeft {s rest : List Char} {clause : Clause}
    (h : readClause? s = some (clause, rest)) (hid : ∀ id ∈ clause.ids.head?, OpensBare id) :
    readClause? (trimLeft s) = some (clause, rest) := by
  have hblank : blankClause? s ≠ some (clause, rest) := by
    intro h
    obtain ⟨b, hb, heq⟩ := Option.map_eq_some_iff.1 h
    cases heq
    have hb' : isBlank b = true :=
      List.mem_takeWhile_imp (List.mem_of_mem_getLast? hb)
    exact absurd (hid _ rfl b rfl).2 (by simp [hb'])
  rw [readClause?] at h ⊢
  rw [trimLeft_trimLeft]
  split at h
  · exact absurd h hblank
  · split at h
    · exact absurd h hblank
    · next hcut => simpa only [hcut] using h
  · exact h

/-- **A line is read as it is read without the blanks in front.** -/
theorem ofLine?_trimLeft {line desc : String} {u : Usage} (h : ofLine? line desc = .ok u)
    (hid : OpensBare u.canonical.toList) :
    ofLine? (.ofList (trimLeft line.toList)) desc = .ok u := by
  obtain ⟨clause, after, hclause, hrest⟩ := ofLine?_eq_ok_iff.1 h
  refine ofLine?_eq_ok_iff.2 ⟨clause, after, ?_, hrest⟩
  obtain rfl := hrest.2.2.2
  rw [String.toList_ofList]
  exact readClause?_trimLeft hclause (opensBare_of_canonical rfl hid)

/-- The usage of a line that is read is declared by an admissible form, which spells the line itself
but for blanks in front. -/
theorem exists_form_of_ofLine? {line desc : String} {u : Usage} (h : ofLine? line desc = .ok u)
    (hid : OpensBare u.canonical.toList) : ∃ f : Form, f.IsAdmissible ∧ f.usage desc = u := by
  have hread := ofLine?_trimLeft h hid
  have hline : ∀ c, (String.ofList (trimLeft line.toList)).toList.head? = some c →
      isBlank c = false := by
    intro c hc
    rw [String.toList_ofList] at hc
    obtain ⟨r, hr⟩ := List.head?_eq_some_iff.1 hc
    exact isBlank_head_trimLeft hr
  obtain ⟨f, hf, ht⟩ := exists_of_ofLine? hline hread
  exact ⟨f, hf, Except.ok.inj ((ofLine?_text hf ht desc).symm.trans hread)⟩

/-! ## The law of the printer -/

/-- **A printed usage is the normal form of its line.**  The usage that is read from a line is read
again from its printed line, which both help texts show, unless its canonical identifier opens with
a parenthesis or a blank; and what is read from the printed line is printed as that line. -/
theorem ofLine?_printed {line desc : String} {u : Usage} (h : ofLine? line desc = .ok u)
    (hid : OpensBare u.canonical.toList) :
    Plain.help.foldLong u = "USAGE: " ++ u.line ++ "\n" ++ u.desc ∧
      Plain.help.foldShort u = u.line ++ ": " ++ u.desc ∧
      ofLine? u.line desc = .ok u ∧ (ofLine? u.line desc).map Usage.line = .ok u.line := by
  obtain ⟨f, hf, rfl⟩ := exists_form_of_ofLine? h hid
  have hadmissible : f.printed.IsAdmissible :=
    Form.isAdmissible_printed hf (opensBare_of_canonical rfl hid)
  have hprinted : ofLine? (f.usage desc).line desc = .ok (f.usage desc) := by
    rw [ofLine?_text hadmissible (f.text_printed desc), Form.usage_printed hf]
  exact ⟨rfl, rfl, hprinted, by rw [hprinted]; rfl⟩

/-- A line with blanks wherever they may stand, names with blanks and periods in them, and the line
that is printed of its usage. -/
theorem ofLine?_printed_push :
    ofLine? "( push it | p)<a b>[c.]  [d....] " "Push." =
        .ok ⟨["push it", "p"], ["a b"], ["c."], some ⟨"d.", false⟩, "Push."⟩ ∧
      OpensBare "push it".toList ∧
      ofLine? "(push it|p) <a b> [c.] [d....]" "Push." =
        .ok ⟨["push it", "p"], ["a b"], ["c."], some ⟨"d.", false⟩, "Push."⟩ := by
  have hread : ofLine? "( push it | p)<a b>[c.]  [d....] " "Push." =
      .ok ⟨["push it", "p"], ["a b"], ["c."], some ⟨"d.", false⟩, "Push."⟩ :=
    ofLine?_text (f := ⟨.alternatives [" push it ".toList, " p".toList],
      [⟨[], "a b".toList⟩], [⟨[], "c.".toList⟩],
      some ⟨[' ', ' '], "d.".toList, false⟩, [' ']⟩) (by decide) rfl "Push."
  have hopen : OpensBare "push it".toList := by decide +kernel
  exact ⟨hread, hopen, (ofLine?_printed hread hopen).2.2.1⟩

end CommandSpec.Usage
