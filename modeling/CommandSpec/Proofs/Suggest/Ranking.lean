import CommandSpec.Fold.Plain
import Mathlib.Data.List.Basic
import Mathlib.Data.String.Basic
import Mathlib.Order.Lattice
import Mathlib.Algebra.Order.Ring.Unbundled.Rat

/-!
# Proofs/Suggest/Ranking — which names are suggested, and in which order

Options are ranked by their scores, which may be of any ordered kind, and options of one score by
their names.  This is a total order of the options, so that a list of them has one ranking
(`IsRanking.unique`).  What is suggested is the ranking of the options that reach the threshold
(`isRanking_suggestionsBy`).  The laws of two rankings follow: the order of the options makes no
difference, and a higher threshold cuts the list off earlier.
-/

namespace CommandSpec

section Ranking

variable {σ : Type} [LinearOrder σ]

/-! ## Rankings -/

/-- **One option ranks no later than another**: its score is higher, or it comes no later among the
options of its score. -/
def RanksBefore (score : String → σ) (a b : String) : Prop :=
  score b < score a ∨ score a = score b ∧ a ≤ b

instance (score : String → σ) : DecidableRel (RanksBefore score) := fun a b =>
  inferInstanceAs (Decidable (score b < score a ∨ score a = score b ∧ a ≤ b))

/-- **A ranking of some options** has each that reaches the threshold as often as the options do,
the best first. -/
structure IsRanking (score : String → σ) (threshold : σ) (options ranked : List String) : Prop where
  perm : ranked.Perm (options.filter fun o => threshold ≤ score o)
  pairwise : ranked.Pairwise (RanksBefore score)

variable {score : String → σ} {threshold : σ} {options ranked : List String} {a b c : String}

theorem RanksBefore.trans (hab : RanksBefore score a b) (hbc : RanksBefore score b c) :
    RanksBefore score a c := by
  obtain hab | ⟨hab, hle⟩ := hab
  · obtain hbc | ⟨hbc, -⟩ := hbc
    · exact .inl (hbc.trans hab)
    · exact .inl (hbc ▸ hab)
  · obtain hbc | ⟨hbc, hle'⟩ := hbc
    · exact .inl (hab ▸ hbc)
    · exact .inr ⟨hab.trans hbc, hle.trans hle'⟩

theorem RanksBefore.total (a b : String) : RanksBefore score a b ∨ RanksBefore score b a := by
  obtain h | h | h := lt_trichotomy (score a) (score b)
  · exact .inr (.inl h)
  · exact (le_total a b).imp (fun hle => .inr ⟨h, hle⟩) fun hle => .inr ⟨h.symm, hle⟩
  · exact .inl (.inl h)

theorem RanksBefore.antisymm (hab : RanksBefore score a b) (hba : RanksBefore score b a) :
    a = b := by
  obtain hab | ⟨hab, hle⟩ := hab
  · obtain hba | ⟨hba, -⟩ := hba
    · exact absurd hba hab.not_gt
    · exact absurd hba hab.ne
  · obtain hba | ⟨-, hle'⟩ := hba
    · exact absurd hab hba.ne
    · exact le_antisymm hle hle'

/-- An option that ranks no later reaches every threshold that the other does. -/
theorem RanksBefore.le_score (h : RanksBefore score a b) : score b ≤ score a :=
  h.elim le_of_lt fun h => h.1.ge

/-- **Options have one ranking.** -/
theorem IsRanking.unique {ranked' : List String} (h : IsRanking score threshold options ranked)
    (h' : IsRanking score threshold options ranked') : ranked = ranked' :=
  (h.perm.trans h'.perm.symm).eq_of_pairwise (fun _ _ _ _ => RanksBefore.antisymm) h.pairwise
    h'.pairwise

/-- A ranking of some options is one of the same options in any order. -/
theorem IsRanking.of_perm {options' : List String} (h : IsRanking score threshold options ranked)
    (hperm : options.Perm options') : IsRanking score threshold options' ranked :=
  ⟨h.perm.trans (hperm.filter _), h.pairwise⟩

theorem IsRanking.mem_iff (h : IsRanking score threshold options ranked) {o : String} :
    o ∈ ranked ↔ o ∈ options ∧ threshold ≤ score o := by
  rw [h.perm.mem_iff, List.mem_filter, decide_eq_true_eq]

/-- An option is ranked as often as it occurs, if it reaches the threshold. -/
theorem IsRanking.count_eq (h : IsRanking score threshold options ranked) (o : String) :
    ranked.count o = if threshold ≤ score o then options.count o else 0 := by
  rw [h.perm.count_eq]
  by_cases ho : threshold ≤ score o
  · rw [List.count_filter (by simpa using ho), if_pos ho]
  · rw [if_neg ho, List.count_eq_zero]
    exact fun hmem => ho (by simpa using (List.mem_filter.1 hmem).2)

/-- Where a property can only be lost along a list, the items that have it come first. -/
theorem filter_eq_takeWhile {α : Type} {p : α → Bool} {l : List α}
    (h : l.Pairwise fun a b => p b = true → p a = true) : l.filter p = l.takeWhile p := by
  induction l with
  | nil => rfl
  | cons a l ih =>
    obtain ⟨ha, hl⟩ := List.pairwise_cons.1 h
    cases hp : p a with
    | true => rw [List.filter_cons_of_pos hp, List.takeWhile_cons_of_pos hp, ih hl]
    | false =>
      have hneg : ¬ p a = true := by rw [hp]; exact Bool.false_ne_true
      rw [List.filter_cons_of_neg hneg, List.takeWhile_cons_of_neg hneg, List.filter_eq_nil_iff]
      exact fun b hb hpb => hneg (ha b hb hpb)

/-- **A ranking with a higher threshold** is the beginning of the other. -/
theorem IsRanking.takeWhile (h : IsRanking score threshold options ranked) {threshold' : σ}
    (hle : threshold ≤ threshold') :
    IsRanking score threshold' options (ranked.takeWhile fun o => threshold' ≤ score o) := by
  have hlost : ranked.Pairwise fun a b =>
      decide (threshold' ≤ score b) = true → decide (threshold' ≤ score a) = true :=
    h.pairwise.imp fun hab hb => decide_eq_true ((of_decide_eq_true hb).trans hab.le_score)
  have hboth : ∀ o, (decide (threshold' ≤ score o) && decide (threshold ≤ score o)) =
      decide (threshold' ≤ score o) := fun o => by
    rw [Bool.and_eq_left_iff_imp]
    exact fun ho => decide_eq_true (hle.trans (of_decide_eq_true ho))
  rw [← filter_eq_takeWhile hlost]
  refine ⟨(h.perm.filter _).trans (List.Perm.of_eq ?_), h.pairwise.filter _⟩
  simp only [List.filter_filter, hboth]

/-! ## Suggestions -/

variable {like : String → String → σ} {given : String}

theorem ranksBefore_iff (score : String → σ) (a b : String) :
    ranksBefore (score a, a) (score b, b) = true ↔ RanksBefore score a b := by
  simp [ranksBefore, RanksBefore]

/-- Options are ranked with their scores as they are by themselves. -/
theorem suggestionsBy_eq (like : String → String → σ) (threshold : σ) (given : String)
    (options : List String) :
    suggestionsBy like threshold given options =
      (options.mergeSort fun a b =>
        ranksBefore (scoreBy like given a, a) (scoreBy like given b, b)).filter
          fun o => threshold ≤ scoreBy like given o := by
  have hsort : (options.mergeSort fun a b =>
        ranksBefore (scoreBy like given a, a) (scoreBy like given b, b)).map
          (fun o => (scoreBy like given o, o)) =
      (options.map fun o => (scoreBy like given o, o)).mergeSort ranksBefore :=
    List.map_mergeSort fun _ _ _ _ => rfl
  rw [suggestionsBy, ← hsort, List.filter_map, List.map_map]
  exact List.map_id _

/-- **What is suggested is the ranking of the options.** -/
theorem isRanking_suggestionsBy (like : String → String → σ) (threshold : σ) (given : String)
    (options : List String) :
    IsRanking (scoreBy like given) threshold options
      (suggestionsBy like threshold given options) := by
  rw [suggestionsBy_eq]
  refine ⟨(List.mergeSort_perm ..).filter _, List.Pairwise.filter _ ?_⟩
  refine (List.pairwise_mergeSort (fun a b c => ?_) (fun a b => ?_) options).imp fun hab => ?_
  · simp only [ranksBefore_iff]
    exact RanksBefore.trans
  · rw [Bool.or_eq_true, ranksBefore_iff, ranksBefore_iff]
    exact RanksBefore.total a b
  · exact (ranksBefore_iff _ _ _).1 hab

theorem suggestionsBy_eq_nil_iff : suggestionsBy like threshold given options = [] ↔
    ∀ o ∈ options, scoreBy like given o < threshold := by
  simp only [List.eq_nil_iff_forall_not_mem, (isRanking_suggestionsBy ..).mem_iff, not_and, not_le]

end Ranking

/-! ## Messages -/

/-- **The message for an unknown name** closes with the names that may have been meant, or else with
those that there are. -/
theorem Plain.fold_noMatch (given : String) (names : List String) :
    (Plain.faults true).fold (.noMatch given (names.map .text)) =
      "Not sure what you mean by " ++ Text.quoted given ++ "." ++
        if suggestions suggestionThreshold given names = [] then
          if names = [] then "" else "  Available options are: " ++ options names
        else "  Did you mean: " ++ options (suggestions suggestionThreshold given names) := by
  have hplain : (names.map Datum.text).map Datum.plain = names := by
    rw [List.map_map]
    exact List.map_id _
  have hmeant : suggested true given (names.map .text) =
      suggestions suggestionThreshold given names := by
    rw [suggested, FaultPart.meant_text]
    rfl
  change Plain.noIdMatch true given (names.map .text) = _
  rw [noIdMatch, hmeant, FaultPart.shown_text, hplain]
  generalize suggestions suggestionThreshold given names = meant
  cases meant <;> cases names <;> simp [← String.append_assoc]

/-- The names that there are stand in the message where none of them may have been meant. -/
theorem Plain.fold_noMatch_eq_iff {given : String} {names : List String} (hnames : names ≠ []) :
    (Plain.faults true).fold (.noMatch given (names.map .text)) =
        "Not sure what you mean by " ++ Text.quoted given ++ "." ++
          "  Available options are: " ++ options names ↔
      suggestions suggestionThreshold given names = [] := by
  rw [Plain.fold_noMatch]
  constructor
  · intro h
    by_contra hne
    rw [if_neg hne] at h
    -- The two messages differ behind the name: one goes on with `D`, the other with `A`.
    simp [← String.toList_inj, String.append_assoc] at h
  · intro hnil
    rw [if_pos hnil, if_neg hnames, ← String.append_assoc]

section Ranking

variable {σ : Type} [LinearOrder σ]

/-- **Suggestions are the ranking of the options**, and nothing else is: every option that reaches
the threshold as often as it occurs, the best first, and those of one score in their own order.  So
it makes no difference in which order the options are given, and a higher threshold leaves the
beginning of the list.  The message for an unknown name names the suggestions, or all names exactly
when none of them reaches the threshold. -/
theorem suggestionsBy_ranked (like : String → String → σ) (threshold : σ) (given : String)
    (options : List String) :
    (∀ ranked, suggestionsBy like threshold given options = ranked ↔
      IsRanking (scoreBy like given) threshold options ranked) ∧
    (∀ o, (suggestionsBy like threshold given options).count o =
      if threshold ≤ scoreBy like given o then options.count o else 0) ∧
    (∀ options', options.Perm options' →
      suggestionsBy like threshold given options' = suggestionsBy like threshold given options) ∧
    (∀ threshold', threshold ≤ threshold' →
      suggestionsBy like threshold' given options <+: suggestionsBy like threshold given options) ∧
    (options ≠ [] →
      ((Plain.faults true).fold (.noMatch given (options.map .text)) =
          "Not sure what you mean by " ++ Text.quoted given ++ "." ++
            "  Available options are: " ++ Plain.options options ↔
        ∀ o ∈ options, scoreBy similarity given o < suggestionThreshold) ∧
      ((∃ o ∈ options, suggestionThreshold ≤ scoreBy similarity given o) →
        (Plain.faults true).fold (.noMatch given (options.map .text)) =
          "Not sure what you mean by " ++ Text.quoted given ++ "." ++
            "  Did you mean: " ++ Plain.options
              (suggestions suggestionThreshold given options))) := by
  have hranking := isRanking_suggestionsBy like threshold given options
  refine ⟨fun ranked => ⟨fun h => h ▸ hranking, hranking.unique⟩, hranking.count_eq,
    fun options' hperm => ?_, fun threshold' hle => ?_, fun hne => ⟨?_, fun hreach => ?_⟩⟩
  · exact (isRanking_suggestionsBy like threshold given options').unique (hranking.of_perm hperm)
  · rw [(isRanking_suggestionsBy like threshold' given options).unique (hranking.takeWhile hle)]
    exact List.takeWhile_prefix _
  · rw [Plain.fold_noMatch_eq_iff hne]
    exact suggestionsBy_eq_nil_iff
  · have hsome : suggestions suggestionThreshold given options ≠ [] := fun hnil =>
      have ⟨o, ho, hle⟩ := hreach
      (suggestionsBy_eq_nil_iff.1 hnil o ho).not_ge hle
    rw [Plain.fold_noMatch, if_neg hsome, ← String.append_assoc]

/-- `pull` is not like `pish`, and `push` and `PUSH` are alike in lower case, so that they are in
their own order, one of them twice. -/
theorem suggestionsBy_ranked_push :
    let options := ["push", "pull", "PUSH", "push"]
    suggestions suggestionThreshold "pish" options = ["PUSH", "push", "push"] ∧
    options.Perm ["pull", "push", "push", "PUSH"] ∧
    suggestions suggestionThreshold "pish" ["pull", "push", "push", "PUSH"] =
      ["PUSH", "push", "push"] ∧
    suggestionThreshold ≤ 1 ∧ suggestions 1 "pish" options <+: ["PUSH", "push", "push"] ∧
    (Plain.faults true).fold (.noMatch "pish" (options.map .text)) =
      "Not sure what you mean by 'pish'." ++ "  Did you mean: 'PUSH', 'push', 'push'" ∧
    (Plain.faults true).fold (.noMatch "xyz" (["pull", "push"].map .text)) =
      "Not sure what you mean by 'xyz'." ++ "  Available options are: 'pull', 'push'" := by
  intro options
  have hranking : IsRanking (scoreBy similarity "pish") suggestionThreshold options
      ["PUSH", "push", "push"] := ⟨by decide +kernel, by decide +kernel⟩
  obtain ⟨hrank, -, hperm, hcut, hmessage⟩ :=
    suggestionsBy_ranked similarity suggestionThreshold "pish" options
  have hmeant : suggestions suggestionThreshold "pish" options = ["PUSH", "push", "push"] :=
    (hrank _).2 hranking
  have hsame : options.Perm ["pull", "push", "push", "PUSH"] := by decide +kernel
  have hle : suggestionThreshold ≤ 1 := by decide +kernel
  refine ⟨hmeant, hsame, (hperm _ hsame).trans hmeant, hle, hmeant ▸ hcut 1 hle, ?_, ?_⟩
  · rw [(hmessage (by decide)).2 ⟨"push", by decide, by decide +kernel⟩, hmeant]
    decide +kernel
  · rw [((suggestionsBy_ranked similarity suggestionThreshold "xyz" ["pull", "push"]).2.2.2.2
      (by decide)).1.2 (by decide +kernel)]
    decide +kernel

end Ranking

end CommandSpec
