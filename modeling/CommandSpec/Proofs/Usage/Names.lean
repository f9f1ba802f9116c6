import CommandSpec.Proofs.Usage.Grammar
import CommandSpec.Usage.Printer

/-!
# Proofs/Usage/Names — which names a plain argument may have

The rule for the names of plain arguments is that a name ends in no period, unless it has at most
two characters (`FollowsRule`).  The reader asks for more: no period may stand in the two places
before the last one either (`HasPeriodNearEnd`).  Every plain argument that is read has a name of
this kind, and every such name can be read (`ofLine?_oneArgument`); a name that follows the rule and
has a period near its end is neither a plain argument nor a rest argument.
-/

namespace CommandSpec.Usage

open Text

variable {b : Bool} {name : List Char}

/-! ## The rule, and what the reader asks for -/

/-- **The rule**: a name ends in no period, unless it has at most two characters. -/
def FollowsRule (name : List Char) : Prop := name.length ≤ 2 ∨ name.getLast? ≠ some '.'

instance (name : List Char) : Decidable (FollowsRule name) := inferInstanceAs (Decidable (_ ∨ _))

/-- A period among the two characters before the last one. -/
def HasPeriodNearEnd (name : List Char) : Prop :=
  2 < name.length ∧ '.' ∈ (name.drop (name.length - 3)).take 2

instance (name : List Char) : Decidable (HasPeriodNearEnd name) :=
  inferInstanceAs (Decidable (_ ∧ _))

/-- A name of three characters or more, up to its last three. -/
theorem exists_last_three (h : 2 < name.length) :
    ∃ front x y z, name = front ++ [x, y, z] ∧ name.drop (name.length - 3) = [x, y, z] := by
  have hlen : (name.drop (name.length - 3)).length = 3 := by
    rw [List.length_drop]
    omega
  obtain ⟨x, y, z, hlast⟩ := List.length_eq_three.1 hlen
  refine ⟨name.take (name.length - 3), x, y, z, ?_, hlast⟩
  rw [← hlast, List.take_append_drop]

/-- **The reader asks for the rule and for no period near the end.** -/
theorem short_or_no_period_iff :
    (name.length ≤ 2 ∨ '.' ∉ name.drop (name.length - 3)) ↔
      FollowsRule name ∧ ¬HasPeriodNearEnd name := by
  by_cases hlen : name.length ≤ 2
  · exact iff_of_true (.inl hlen) ⟨.inl hlen, fun h => absurd h.1 (Nat.not_lt.2 hlen)⟩
  · have hlong : 2 < name.length := Nat.lt_of_not_le hlen
    obtain ⟨front, x, y, z, hname, hdrop⟩ := exists_last_three hlong
    have hlast : name.getLast? = some z := by
      rw [hname]
      simp
    rw [FollowsRule, HasPeriodNearEnd, hlast, hdrop]
    simp only [hlen, hlong, List.take, List.mem_cons, List.not_mem_nil, true_and, false_or,
      or_false, not_or, ne_eq, Option.some.injEq]
    exact ⟨fun ⟨hx, hy, hz⟩ => ⟨Ne.symm hz, hx, hy⟩, fun ⟨hz, hx, hy⟩ => ⟨hx, hy, Ne.symm hz⟩⟩

/-- A name that follows the rule does not end in an ellipsis. -/
theorem not_followsRule_ellipsis (stem : List Char) : ¬FollowsRule (stem ++ RestForm.ellipsis) := by
  rintro (hshort | hlast)
  · rw [List.length_append, RestForm.ellipsis] at hshort
    exact absurd (Nat.le_of_add_left_le hshort) (by decide)
  · exact hlast (by simp [RestForm.ellipsis])

/-! ## A command with one argument -/

/-- The line of a command with one argument, as it is printed. -/
def lineOfOne (isRequired : Bool) (name : String) : String :=
  "cmd " ++ ArgumentUsage.spelling name isRequired false

/-- The usage of a command with one plain argument. -/
def usageOfOne (isRequired : Bool) (name desc : String) : Usage where
  ids := ["cmd"]
  required := if isRequired then [name] else []
  optional := if isRequired then [] else [name]
  rest := none
  desc := desc

/-- What stands behind the identifier in such a line: a space, and the argument. -/
def afterCmd (isRequired : Bool) (name : List Char) : List Char :=
  (ArgumentForm.mk [' '] name).text isRequired

theorem toList_lineOfOne (b : Bool) (name : String) :
    (lineOfOne b name).toList = "cmd".toList ++ afterCmd b name.toList := by
  cases b <;>
    simp [lineOfOne, ArgumentUsage.spelling, afterCmd, ArgumentForm.text, opening, closing]

theorem trimLeft_afterCmd (b : Bool) (name : List Char) :
    trimLeft (afterCmd b name) = opening b :: (name ++ [closing b]) := by
  rw [afterCmd, ArgumentForm.text, trimLeft_append_of_allBlank rfl,
    trimLeft_cons_of_not_isBlank (isBlank_opening b)]

theorem allBlank_afterCmd (b : Bool) (name : List Char) : allBlank (afterCmd b name) = false := by
  rw [← allBlank_trimLeft, trimLeft_afterCmd, allBlank_cons, isBlank_opening, Bool.false_and]

theorem trim_afterCmd (b : Bool) (name : String) :
    trim (afterCmd b name.toList) = (ArgumentUsage.spelling name b false).toList := by
  have hend : allBlank [closing b] = false := by cases b <;> rfl
  rw [trim, trimLeft_afterCmd, ← List.cons_append, trimRight_append_of_not_allBlank hend]
  cases b <;> simp [ArgumentUsage.spelling, opening, closing, trimRight, isBlank]

/-- The form of such a line. -/
def formOfOne (isRequired : Bool) (name : List Char) : Form where
  clause := .bare "cmd".toList
  required := if isRequired then [⟨[' '], name⟩] else []
  optional := if isRequired then [] else [⟨[' '], name⟩]
  rest := none
  trailing := []

theorem afterClause_formOfOne (b : Bool) (name : List Char) :
    (formOfOne b name).afterClause = afterCmd b name := by
  cases b <;>
    simp [formOfOne, Form.afterClause, Form.afterRequired, Form.afterOptional, afterCmd]

/-- The identifier of such a line is a clause of its own. -/
theorem isAdmissible_cmd (b : Bool) (name : List Char) :
    (ClauseForm.bare "cmd".toList).IsAdmissible (afterCmd b name) := by
  refine ⟨by decide, by simp [isBlank], by decide, ?_⟩
  rintro c ⟨⟩
  rfl

theorem isAdmissible_formOfOne (h : (ArgumentForm.mk [' '] name).IsAdmissible b) :
    (formOfOne b name).IsAdmissible where
  clause := by
    rw [afterClause_formOfOne]
    exact isAdmissible_cmd b name
  required a ha := by
    cases b with
    | true => exact List.mem_singleton.1 ha ▸ h
    | false => cases ha
  optional a ha := by
    cases b with
    | true => cases ha
    | false => exact List.mem_singleton.1 ha ▸ h
  rest := nofun
  trailing := rfl
  nodup_names := by cases b <;> simp [formOfOne, Form.names]

/-- **A name that the reader admits is declared.** -/
theorem ofLine?_lineOfOne {name : String}
    (h : (ArgumentForm.mk [' '] name.toList).IsAdmissible b) (desc : String) :
    ofLine? (lineOfOne b name) desc = .ok (usageOfOne b name desc) := by
  have ht : (formOfOne b name.toList).text = (lineOfOne b name).toList := by
    rw [Form.text, afterClause_formOfOne, toList_lineOfOne]
    rfl
  rw [ofLine?_text (isAdmissible_formOfOne h) ht]
  cases b <;> simp [formOfOne, usageOfOne, Form.usage, ClauseForm.ids]

/-! ## Names that are refused -/

section Refused

variable (hclosing : closing b ∉ name)
include hclosing

/-- No argument is read, of either kind, where the name is not admitted. -/
theorem readArguments_refused
    (hname : ¬(name.length ≤ 2 ∨ '.' ∉ name.drop (name.length - 3))) (b' : Bool) :
    readArguments (opening b') (closing b') (afterCmd b name) = ([], afterCmd b name) := by
  refine readArguments_of_none ?_
  by_cases hb : b = b'
  · subst hb
    rw [readArgument?, trimLeft_afterCmd]
    simp only [if_true, cutAt_append_cons hclosing]
    exact if_neg (mt isPlainName_iff.1 hname)
  · exact readArgument?_of_head_ne (trimLeft_afterCmd b name) fun h => hb (opening_injective h)

/-- No rest argument is read where the name follows the rule. -/
theorem readRest_of_followsRule (hrule : FollowsRule name) :
    readRest (afterCmd b name) = (none, afterCmd b name) := by
  rw [readRest_of_trimLeft (trimLeft_afterCmd b name)]
  cases hfound : restBefore? (closing b) b (name ++ [closing b]) with
  | none => rfl
  | some found =>
    obtain ⟨stem, hcut, -⟩ := restBefore?_eq_some_iff.1 hfound
    rw [cutAt_append_cons hclosing, Option.some.injEq, Prod.mk.injEq] at hcut
    rw [hcut.1] at hrule
    exact absurd hrule (not_followsRule_ellipsis stem)

end Refused

/-- **A name that follows the rule is refused** where the reader does not admit it, and so is the
line. -/
theorem ofLine?_lineOfOne_refused {name : String} (hclosing : closing b ∉ name.toList)
    (hrule : FollowsRule name.toList) (hperiod : HasPeriodNearEnd name.toList) (desc : String) :
    ofLine? (lineOfOne b name) desc =
      .error (.trailing (ArgumentUsage.spelling name b false)) := by
  have hname : ¬(name.toList.length ≤ 2 ∨ '.' ∉ name.toList.drop (name.toList.length - 3)) :=
    fun h => (short_or_no_period_iff.1 h).2 hperiod
  have hread (b' : Bool) := readArguments_refused hclosing hname b'
  have hleft (clause : Clause) :
      (gathered clause (afterCmd b name.toList) desc).2 = afterCmd b name.toList := by
    have hrequired := hread true
    have hoptional := hread false
    rw [opening, closing] at hrequired hoptional
    simp only [if_true, Bool.false_eq_true, if_false] at hrequired hoptional
    rw [gathered, hrequired, hoptional, readRest_of_followsRule hclosing hrule]
  obtain ⟨clause, hclause, hids⟩ := readClause?_text (isAdmissible_cmd b name.toList)
  rw [ClauseForm.text, ← toList_lineOfOne] at hclause
  have hvalid : clause.ids.any allBlank = false :=
    hids ▸ any_allBlank_ids (isAdmissible_cmd b name.toList)
  rw [ofLine?_eq_judged hclause, judged, hvalid, hleft, allBlank_afterCmd, trim_afterCmd,
    String.ofList_toList]
  rfl

/-! ## The law -/

/-- The names of the plain arguments of a usage are admitted by the reader. -/
theorem followsRule_of_mem {line desc : String} {u : Usage} (h : ofLine? line desc = .ok u)
    {name : String} (hname : name ∈ u.required ++ u.optional) :
    FollowsRule name.toList ∧ ¬HasPeriodNearEnd name.toList := by
  obtain ⟨clause, after, -, -, -, -, rfl⟩ := ofLine?_eq_ok_iff.1 h
  have hread (b : Bool) (s : List Char) :
      ∀ n ∈ (readArguments (opening b) (closing b) s).1.map String.ofList,
        FollowsRule n.toList ∧ ¬HasPeriodNearEnd n.toList := by
    obtain ⟨as, has, hnames, -⟩ := exists_of_readArguments (b := b) s
    rw [hnames, List.map_map]
    refine List.forall_mem_map.2 fun a ha => ?_
    rw [Function.comp_apply, String.toList_ofList]
    exact short_or_no_period_iff.1 (has a ha).short_or_no_period
  rcases List.mem_append.1 hname with hname | hname
  · exact hread true _ name hname
  · exact hread false _ name hname

/-- **Which names a plain argument may have.**  A command is declared with one argument of any name
that follows the rule and has no period near its end, and is refused with any other name that
follows the rule; and the plain arguments of every usage have names that follow the rule and have no
period near their end. -/
theorem ofLine?_oneArgument (desc : String) :
    (∀ (isRequired : Bool) (name : String), closing isRequired ∉ name.toList →
      FollowsRule name.toList →
        (¬HasPeriodNearEnd name.toList →
          ofLine? (lineOfOne isRequired name) desc = .ok (usageOfOne isRequired name desc)) ∧
        (HasPeriodNearEnd name.toList →
          ofLine? (lineOfOne isRequired name) desc =
            .error (.trailing (ArgumentUsage.spelling name isRequired false)))) ∧
      ∀ (line : String) (u : Usage), ofLine? line desc = .ok u →
        ∀ name ∈ u.required ++ u.optional,
          FollowsRule name.toList ∧ ¬HasPeriodNearEnd name.toList := by
  refine ⟨fun b name hclosing hrule => ⟨fun hperiod => ?_, fun hperiod => ?_⟩,
    fun line u h name => followsRule_of_mem h⟩
  · exact ofLine?_lineOfOne ⟨rfl, hclosing, short_or_no_period_iff.2 ⟨hrule, hperiod⟩⟩ desc
  · exact ofLine?_lineOfOne_refused hclosing hrule hperiod desc

/-- A name with a period further inside, a short one that ends in a period, and one that is
refused. -/
theorem ofLine?_oneArgument_periods :
    ofLine? "cmd <v1.2-rc>" "Check out." = .ok ⟨["cmd"], ["v1.2-rc"], [], none, "Check out."⟩ ∧
      ofLine? "cmd [x.]" "Check out." = .ok ⟨["cmd"], [], ["x."], none, "Check out."⟩ ∧
      ofLine? "cmd [app.py]" "Check out." = .error (.trailing "[app.py]") ∧
      FollowsRule "x.".toList := by
  have hlaw := ofLine?_oneArgument "Check out."
  have hlong := (hlaw.1 true "v1.2-rc" (by decide) (by decide)).1 (by decide)
  have hshort := (hlaw.1 false "x." (by decide) (by decide)).1 (by decide)
  have hrefused := (hlaw.1 false "app.py" (by decide) (by decide)).2 (by decide)
  exact ⟨hlong, hshort, hrefused, (hlaw.2 _ _ hshort "x." (by decide)).1⟩

/-- **A period near the end of a name makes a difference**, though the name follows the rule. -/
theorem ofLine?_periodNearEnd :
    '>' ∉ "v1.2".toList ∧ FollowsRule "v1.2".toList ∧
      ofLine? "cmd <v1.2>" "" = .error (.trailing "<v1.2>") := by
  decide +kernel

end CommandSpec.Usage
