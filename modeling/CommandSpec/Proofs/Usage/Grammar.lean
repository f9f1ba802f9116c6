import CommandSpec.Fault
import CommandSpec.Docs.Reader
import CommandSpec.Proofs.Usage.Scan
import Mathlib.Data.List.Nodup

/-!
# Proofs/Usage/Grammar — the reader accepts exactly the lines of the grammar

Three facts make up the law.  The line of an admissible form is read as the usage that the form
declares (`ofLine?_text`); a line that is read is the line of an admissible form
(`exists_of_ofLine?`); and no line has two such forms (`Form.text_injective`), because every scan
gives back its own part, and what is left by it is left by both.
-/

namespace CommandSpec.Usage

open Text

/-! ## Between the parts -/

namespace Form

variable {f : Form} (hf : f.IsAdmissible)
include hf

/-- No plain argument stands after the optional ones. -/
theorem readArgument?_afterOptional (b : Bool) :
    readArgument? (opening b) (closing b) f.afterOptional = none := by
  rw [afterOptional]
  cases hr : f.rest with
  | none => exact readArgument?_of_allBlank hf.trailing
  | some r => exact readArgument?_rest (hf.rest r hr) b f.trailing

/-- No required argument stands after the required ones. -/
theorem readArgument?_afterRequired :
    readArgument? (opening true) (closing true) f.afterRequired = none := by
  rw [afterRequired]
  cases ho : f.optional with
  | nil => exact readArgument?_afterOptional hf true
  | cons a as =>
    have ha : a.IsAdmissible false := hf.optional a (ho ▸ List.mem_cons_self ..)
    have ht : trimLeft ((a :: as).flatMap (ArgumentForm.text false) ++ f.afterOptional)
        = opening false :: (a.name ++ [closing false] ++
          (as.flatMap (ArgumentForm.text false) ++ f.afterOptional)) := by
      rw [List.flatMap_cons, List.append_assoc, ArgumentForm.text, List.append_assoc,
        trimLeft_append_of_allBlank ha.blank_gap, List.cons_append,
        trimLeft_cons_of_not_isBlank (isBlank_opening false)]
    exact readArgument?_of_head_ne ht (by decide)

theorem readArguments_afterClause :
    readArguments (opening true) (closing true) f.afterClause
      = (f.required.map (·.name), f.afterRequired) :=
  readArguments_text (readArgument?_afterRequired hf) hf.required

theorem readArguments_afterRequired :
    readArguments (opening false) (closing false) f.afterRequired
      = (f.optional.map (·.name), f.afterOptional) :=
  readArguments_text (readArgument?_afterOptional hf false) hf.optional

theorem readRest_afterOptional :
    readRest f.afterOptional = (f.rest.map RestForm.argument, f.trailing) := by
  rw [afterOptional]
  cases hr : f.rest with
  | none => exact readRest_of_allBlank hf.trailing
  | some r => exact readRest_text (hf.rest r hr) f.trailing

end Form

/-! ## Soundness and completeness -/

/-- What the scans gather behind a clause, and what they leave. -/
def gathered (clause : Clause) (after : List Char) (desc : String) : Usage × List Char :=
  let required := readArguments '<' '>' after
  let optional := readArguments '[' ']' required.2
  let rest := readRest optional.2
  (⟨clause.ids.map String.ofList, required.1.map String.ofList, optional.1.map String.ofList,
    rest.1, desc⟩, rest.2)

/-- What the parts of a line come to, and what is left of it. -/
def judged (clause : Clause) (found : Usage × List Char) : Except UsageFault Usage :=
  if clause.ids.any allBlank then .error (.emptyAlias (.ofList clause.spelling))
  else if allBlank found.2 then
    match firstRepeat? found.1.names with
    | some name => .error (.repeatedArgument name found.1.canonical)
    | none => .ok found.1
  else .error (.trailing (.ofList (trim found.2)))

/-- **A line is judged by its parts**, once its clause is read. -/
theorem ofLine?_eq_judged {line : String} {clause : Clause} {after : List Char}
    (h : readClause? line.toList = some (clause, after)) (desc : String) :
    ofLine? line desc = judged clause (gathered clause after desc) := by
  rw [ofLine?, h, judged]
  simp only [gathered, bind, Except.bind, throw, throwThe, MonadExceptOf.throw, pure, Except.pure]
  split
  · rfl
  · split
    · next hleft => exact (if_pos hleft).symm
    · next hleft => exact (if_neg hleft).symm

theorem judged_eq_ok_iff {clause : Clause} {found : Usage × List Char} {u : Usage} :
    judged clause found = .ok u ↔ clause.ids.any allBlank = false ∧ allBlank found.2 = true ∧
      found.1.names.Nodup ∧ found.1 = u := by
  rw [judged, ← firstRepeat?_eq_none_iff]
  split
  · next hids => simp [hids]
  · next hids =>
    split
    · next hleft => split <;> simp [*]
    · next hleft => simp [hleft]

/-- A line is a usage when its clause has no blank alternative, nothing but blanks is left behind
the rest argument, and no two arguments have one name. -/
theorem ofLine?_eq_ok_iff {line desc : String} {u : Usage} :
    ofLine? line desc = .ok u ↔ ∃ clause after, readClause? line.toList = some (clause, after) ∧
      clause.ids.any allBlank = false ∧ allBlank (gathered clause after desc).2 = true ∧
      (gathered clause after desc).1.names.Nodup ∧ (gathered clause after desc).1 = u := by
  cases hc : readClause? line.toList with
  | none =>
    rw [ofLine?, hc]
    simp
  | some found =>
    rw [ofLine?_eq_judged hc, judged_eq_ok_iff]
    constructor
    · exact fun h => ⟨found.1, found.2, rfl, h⟩
    · rintro ⟨_, _, ⟨⟩, h⟩
      exact h

/-- A usage has an identifier. -/
theorem ids_ne_nil {paragraph : String} {u : Usage} (h : ofParagraph? paragraph = .ok u) :
    u.ids ≠ [] := by
  obtain ⟨clause, after, hclause, -, -, -, rfl⟩ := ofLine?_eq_ok_iff.1 h
  rw [gathered, ne_eq, List.map_eq_nil_iff]
  exact ids_ne_nil_of_readClause? hclause

/-- No two arguments of a usage have one name. -/
theorem nodup_names {line desc : String} {u : Usage} (h : ofLine? line desc = .ok u) :
    u.names.Nodup := by
  obtain ⟨clause, after, -, -, -, hnodup, rfl⟩ := ofLine?_eq_ok_iff.1 h
  exact hnodup

theorem nodup_map_ofList {names : List (List Char)} :
    (names.map String.ofList).Nodup ↔ names.Nodup :=
  List.nodup_map_iff fun _ _ => String.ofList_injective

theorem any_allBlank_ids {f : ClauseForm} {after : List Char} (hf : f.IsAdmissible after) :
    f.ids.any allBlank = false := by
  cases f with
  | bare word =>
    obtain ⟨hne, hblank, -⟩ := hf
    cases word with
    | nil => exact absurd rfl hne
    | cons c cs => simp [ClauseForm.ids, hblank c (List.mem_cons_self ..)]
  | alternatives pieces =>
    simpa [ClauseForm.ids] using fun p hp => (hf.2 p hp).2.2

/-- **The line of an admissible form is read as the usage that it declares.** -/
theorem ofLine?_text {f : Form} (hf : f.IsAdmissible) {line : String} (ht : f.text = line.toList)
    (desc : String) : ofLine? line desc = .ok (f.usage desc) := by
  obtain ⟨clause, hclause, hids⟩ := readClause?_text hf.clause
  refine ofLine?_eq_ok_iff.2 ⟨clause, f.afterClause, ?_, ?_, ?_⟩
  · rw [← ht, Form.text, hclause]
  · rw [hids]
    exact any_allBlank_ids hf.clause
  · have hg : gathered clause f.afterClause desc = (f.usage desc, f.trailing) := by
      have hrequired := Form.readArguments_afterClause hf
      have hoptional := Form.readArguments_afterRequired hf
      rw [opening, closing] at hrequired hoptional
      simp only [if_true, Bool.false_eq_true, if_false] at hrequired hoptional
      rw [gathered, hrequired, hoptional, Form.readRest_afterOptional hf, Form.usage, hids]
      simp [Function.comp_def]
    rw [hg, Form.names_usage, nodup_map_ofList]
    exact ⟨hf.trailing, hf.nodup_names, rfl⟩

/-- **A line that is read is the line of an admissible form.** -/
theorem exists_of_ofLine? {line desc : String} {u : Usage}
    (hline : ∀ c, line.toList.head? = some c → isBlank c = false)
    (h : ofLine? line desc = .ok u) :
    ∃ f : Form, f.IsAdmissible ∧ f.text = line.toList := by
  obtain ⟨clause, after, hclause, hids, hblank, hnames, hu⟩ := ofLine?_eq_ok_iff.1 h
  obtain ⟨c, hc, hcids, hct⟩ := exists_of_readClause? hline hclause hids
  obtain ⟨required, hr, hrnames, hrt⟩ := exists_of_readArguments (b := true) after
  obtain ⟨optional, ho, honames, hot⟩ := exists_of_readArguments (b := false)
    (readArguments '<' '>' after).2
  obtain ⟨rest, trailing, hrest, hread, ht⟩ := exists_of_readRest
    (readArguments '[' ']' (readArguments '<' '>' after).2).2
  rw [gathered, hread] at hblank hnames
  rw [opening, closing, if_pos rfl, if_pos rfl] at hrnames hrt
  rw [opening, closing] at honames hot
  simp only [Bool.false_eq_true, if_false] at honames hot
  have hafter : after = Form.afterClause ⟨c, required, optional, rest, trailing⟩ := by
    rw [Form.afterClause, Form.afterRequired, Form.afterOptional]
    exact hrt.trans (congrArg _ (hot.trans (congrArg _ ht)))
  refine ⟨⟨c, required, optional, rest, trailing⟩, ⟨?_, hr, ho, hrest, hblank, ?_⟩, ?_⟩
  · rw [← hafter]
    exact hc
  · rw [← nodup_map_ofList, Form.names, List.map_append, List.map_append]
    rw [names_eq, hrnames, honames] at hnames
    cases rest <;> exact hnames
  · rw [Form.text, ← hafter]
    exact hct.symm

/-! ## Uniqueness -/

/-- An argument is given back by any text that opens with it. -/
theorem ArgumentForm.text_append_inj {b : Bool} {a a' : ArgumentForm} (ha : a.IsAdmissible b)
    (ha' : a'.IsAdmissible b) {s s' : List Char} (h : a.text b ++ s = a'.text b ++ s') :
    a = a' ∧ s = s' := by
  have hread := readArgument?_text ha s
  rw [h, readArgument?_text ha' s', Option.some.injEq, Prod.mk.injEq] at hread
  obtain ⟨hname, rfl⟩ := hread
  refine ⟨?_, rfl⟩
  have htext := List.append_cancel_right h
  have hgap := (blank_append_cons_inj ha.blank_gap ha'.blank_gap (isBlank_opening b)
    (isBlank_opening b) htext).1
  obtain ⟨gap, name⟩ := a
  obtain ⟨gap', name'⟩ := a'
  rw [ArgumentForm.mk.injEq]
  exact ⟨hgap, hname.symm⟩

/-- Arguments are given back by a text that opens with them and goes on with no other. -/
theorem ArgumentForm.flatMap_text_append_inj {b : Bool} {s s' : List Char}
    (hs : readArgument? (opening b) (closing b) s = none)
    (hs' : readArgument? (opening b) (closing b) s' = none) :
    ∀ {as as' : List ArgumentForm}, (∀ a ∈ as, a.IsAdmissible b) →
      (∀ a ∈ as', a.IsAdmissible b) →
      as.flatMap (ArgumentForm.text b) ++ s = as'.flatMap (ArgumentForm.text b) ++ s' →
      as = as' ∧ s = s'
  | [], [], _, _, h => ⟨rfl, h⟩
  | [], a' :: as', _, ha', h => by
    have hread := readArgument?_text (ha' a' (List.mem_cons_self ..))
      (as'.flatMap (ArgumentForm.text b) ++ s')
    rw [← List.append_assoc, ← List.flatMap_cons, ← h, List.flatMap_nil, List.nil_append, hs]
      at hread
    cases hread
  | a :: as, [], ha, _, h => by
    have hread := readArgument?_text (ha a (List.mem_cons_self ..))
      (as.flatMap (ArgumentForm.text b) ++ s)
    rw [← List.append_assoc, ← List.flatMap_cons, h, List.flatMap_nil, List.nil_append, hs']
      at hread
    cases hread
  | a :: as, a' :: as', ha, ha', h => by
    rw [List.flatMap_cons, List.flatMap_cons, List.append_assoc, List.append_assoc] at h
    obtain ⟨rfl, hmore⟩ := text_append_inj (ha a (List.mem_cons_self ..))
      (ha' a' (List.mem_cons_self ..)) h
    obtain ⟨rfl, rfl⟩ := flatMap_text_append_inj hs hs'
      (fun a h => ha a (List.mem_cons_of_mem _ h)) (fun a h => ha' a (List.mem_cons_of_mem _ h))
      hmore
    exact ⟨rfl, rfl⟩

/-- A rest argument is given back by any text that opens with it. -/
theorem RestForm.text_append_inj {r r' : RestForm} (hr : r.IsAdmissible) (hr' : r'.IsAdmissible)
    {s s' : List Char} (h : r.text ++ s = r'.text ++ s') : r = r' ∧ s = s' := by
  have hread := readRest_text hr s
  rw [h, readRest_text hr' s', Prod.mk.injEq, Option.some.injEq, argument, argument,
    RestArgument.mk.injEq] at hread
  obtain ⟨⟨hname, hrequired⟩, rfl⟩ := hread
  refine ⟨?_, rfl⟩
  have htext := List.append_cancel_right h
  have hgap := (blank_append_cons_inj hr.blank_gap hr'.blank_gap (isBlank_opening _)
    (isBlank_opening _) htext).1
  obtain ⟨gap, name, isRequired⟩ := r
  obtain ⟨gap', name', isRequired'⟩ := r'
  rw [RestForm.mk.injEq]
  exact ⟨hgap, (String.ofList_injective hname).symm, hrequired.symm⟩

/-- An admissible clause is given back by its text. -/
theorem ClauseForm.text_injective {f f' : ClauseForm} {after : List Char}
    (hf : f.IsAdmissible after) (hf' : f'.IsAdmissible after) (h : f.text = f'.text) : f = f' := by
  have hclose : ∀ {pieces pieces' : List (List Char)},
      (ClauseForm.alternatives pieces).IsAdmissible after →
      (ClauseForm.alternatives pieces').IsAdmissible after →
      (ClauseForm.alternatives pieces).text = (ClauseForm.alternatives pieces').text →
      pieces = pieces' := by
    intro pieces pieces' hp hp' heq
    have hjoin := List.append_cancel_right (List.cons.inj heq).2
    rw [← splitAt_intercalate hp.1 fun p hmem => (hp.2 p hmem).2.1, hjoin,
      splitAt_intercalate hp'.1 fun p hmem => (hp'.2 p hmem).2.1]
  cases f with
  | bare word =>
    cases f' with
    | bare word' => exact congrArg bare h
    | alternatives pieces => exact absurd (congrArg List.head? h) hf.2.2.1
  | alternatives pieces =>
    cases f' with
    | bare word => exact absurd (congrArg List.head? h).symm hf'.2.2.1
    | alternatives pieces' => exact congrArg alternatives (hclose hf hf' h)

/-- **No line has two admissible forms.** -/
theorem Form.text_injective {f f' : Form} (hf : f.IsAdmissible) (hf' : f'.IsAdmissible)
    (h : f.text = f'.text) : f = f' := by
  -- the clause is what its scan gives back, and so is what follows it
  obtain ⟨clause, hclause, -⟩ := readClause?_text hf.clause
  obtain ⟨clause', hclause', -⟩ := readClause?_text hf'.clause
  rw [text, text] at h
  rw [h, hclause', Option.some.injEq, Prod.mk.injEq] at hclause
  have hafter : f'.afterClause = f.afterClause := hclause.2
  have hc : f.clause = f'.clause := by
    refine ClauseForm.text_injective hf.clause (hafter ▸ hf'.clause) ?_
    rw [hafter] at h
    exact List.append_cancel_right h
  obtain ⟨hr, hafterRequired⟩ := ArgumentForm.flatMap_text_append_inj
    (readArgument?_afterRequired hf) (readArgument?_afterRequired hf') hf.required hf'.required
    hafter.symm
  obtain ⟨ho, hafterOptional⟩ := ArgumentForm.flatMap_text_append_inj
    (readArgument?_afterOptional hf false) (readArgument?_afterOptional hf' false)
    hf.optional hf'.optional hafterRequired
  have hrest := readRest_afterOptional hf
  rw [hafterOptional, readRest_afterOptional hf', Prod.mk.injEq] at hrest
  obtain ⟨c, required, optional, rest, trailing⟩ := f
  obtain ⟨c', required', optional', rest', trailing'⟩ := f'
  rw [Form.mk.injEq]
  refine ⟨hc, hr, ho, ?_, hrest.2.symm⟩
  cases rest with
  | none => cases rest' with
    | none => rfl
    | some r' => cases hrest.1
  | some r => cases rest' with
    | none => cases hrest.1
    | some r' =>
      rw [RestForm.text_append_inj (hf.rest r rfl) (hf'.rest r' rfl) hafterOptional |>.1]

/-! ## The law of the reader -/

/-- **The reader accepts exactly the grammar.**  A line that is empty or opens with no blank is read
if and only if it is the line of an admissible form; that form is the only one, and the usage that
it declares is the result; and every other line is refused as a usage that is malformed. -/
theorem ofLine?_exact (line desc : String)
    (hline : ∀ c, line.toList.head? = some c → isBlank c = false) :
    ((∃ u, ofLine? line desc = .ok u) ↔ ∃ f : Form, f.IsAdmissible ∧ f.text = line.toList) ∧
    (∀ f : Form, f.IsAdmissible → f.text = line.toList →
      ofLine? line desc = .ok (f.usage desc) ∧
        ∀ f' : Form, f'.IsAdmissible → f'.text = line.toList → f' = f) ∧
    ((¬∃ f : Form, f.IsAdmissible ∧ f.text = line.toList) →
      ∃ e, ofLine? line desc = .error e ∧ e.fault.kind = "UsageSyntaxError") := by
  refine ⟨⟨?_, ?_⟩, ?_, ?_⟩
  · rintro ⟨u, hu⟩
    exact exists_of_ofLine? hline hu
  · rintro ⟨f, hf, ht⟩
    exact ⟨f.usage desc, ofLine?_text hf ht desc⟩
  · intro f hf ht
    exact ⟨ofLine?_text hf ht desc,
      fun f' hf' ht' => Form.text_injective hf' hf (ht'.trans ht.symm)⟩
  · intro hno
    cases h : ofLine? line desc with
    | ok u => exact absurd (exists_of_ofLine? hline h) hno
    | error e => exact ⟨e, rfl, rfl⟩

/-- A line with all kinds of parts, and the usage that it declares. -/
theorem ofLine?_exact_push :
    ofLine? "(push| p) <branch>[--force]  [flags...] " "Push commits." =
      .ok ⟨["push", "p"], ["branch"], ["--force"], some ⟨"flags", false⟩, "Push commits."⟩ :=
  ((ofLine?_exact "(push| p) <branch>[--force]  [flags...] " "Push commits."
    (by rintro c ⟨⟩; rfl)).2.1
      ⟨.alternatives ["push".toList, " p".toList], [⟨[' '], "branch".toList⟩],
        [⟨[], "--force".toList⟩], some ⟨[' ', ' '], "flags".toList, false⟩, [' ']⟩
      (by decide) rfl).1

end CommandSpec.Usage
