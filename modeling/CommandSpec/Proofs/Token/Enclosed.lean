import CommandSpec.Proofs.Token.Writing

/-!
# Proofs/Token/Enclosed — what stands between double quotes is one token

Between double quotes stand **pieces**: characters that stand for themselves, and characters behind
a backslash.  The scanner resolves them all, up to the closing quote, unless one of them is a line
feed behind a backslash (`doubleQuoted?_written`).  Such a line feed ends the scan without a token:
the opening quote is passed over as if it were never closed, and the pieces are split as a line of
their own.  Their first token is not the text that they stand for, because it has no blank in it, or
else a single quote has been taken for the opening one (`exists_first_token`).
-/

namespace CommandSpec.Token

open Text

/-- What may stand between double quotes: a character other than the quote and the backslash, or
any character behind a backslash. -/
inductive Piece where
  | plain (c : Char) (special : c ≠ '"' ∧ c ≠ '\\')
  | escape (c : Char)
  deriving DecidableEq

namespace Piece

/-- A piece as it stands in a line. -/
def written : Piece → List Char
  | plain c _ => [c]
  | escape c => ['\\', c]

/-- The character that a piece stands for. -/
def char : Piece → Char
  | plain c _ => c
  | escape c => c

/-- Pieces between double quotes. -/
def enclosed (ps : List Piece) : String := .ofList ('"' :: ps.flatMap written ++ ['"'])

/-- Pieces in front of a double quote. -/
def unopened (ps : List Piece) : String := .ofList (ps.flatMap written ++ ['"'])

/-- The text that pieces stand for. -/
def text (ps : List Piece) : String := .ofList (ps.map char)

theorem toList_enclosed (ps : List Piece) :
    (enclosed ps).toList = '"' :: (ps.flatMap written ++ ['"']) := String.toList_ofList

end Piece

open Piece

variable {ps : List Piece} {s token rest : List Char}

/-! ## The scan between double quotes -/

/-- **Pieces are resolved up to the closing quote**, unless a line feed is escaped among them. -/
theorem doubleQuoted?_written (ps : List Piece) (rest : List Char) :
    doubleQuoted? (ps.flatMap written ++ '"' :: rest) =
      if escape '\n' ∈ ps then none else some (ps.map char, rest) := by
  induction ps with
  | nil => rfl
  | cons p ps ih =>
    rw [List.flatMap_cons, List.append_assoc]
    cases p with
    | plain c hc =>
      rw [written, List.singleton_append, doubleQuoted?_plain hc.1 hc.2, ih]
      by_cases h : escape '\n' ∈ ps <;> simp [h, char]
    | escape c =>
      rw [written, List.cons_append, List.singleton_append, doubleQuoted?_escape, ih]
      by_cases hc : c = '\n'
      · simp [hc]
      · by_cases h : escape '\n' ∈ ps <;> simp [h, hc, Ne.symm hc, char]

/-- Without an escaped line feed, the enclosed pieces are one token. -/
theorem splitChars_enclosed (h : escape '\n' ∉ ps) :
    splitChars ('"' :: (ps.flatMap written ++ ['"'])) = [ps.map char] := by
  have hread : quotedToken? '"' (ps.flatMap written ++ ['"']) = some (ps.map char, []) :=
    (doubleQuoted?_written ps []).trans (if_neg h)
  rw [splitChars_of_quoted (.inr rfl) hread, splitChars_nil]

/-- With an escaped line feed, the opening quote is passed over. -/
theorem splitChars_enclosed_of_mem (h : escape '\n' ∈ ps) :
    splitChars ('"' :: (ps.flatMap written ++ ['"'])) =
      splitChars (ps.flatMap written ++ ['"']) :=
  splitChars_of_unclosed (.inr rfl) ((doubleQuoted?_written ps []).trans (if_pos h))

/-! ## The first token of pieces that are not enclosed -/

theorem not_mem_of_singleQuoted? (h : singleQuoted? s = some (token, rest)) : '\'' ∉ token := by
  induction s generalizing token with
  | nil => cases h
  | cons c cs ih =>
    rw [singleQuoted?] at h
    split at h
    · cases h
      exact List.not_mem_nil
    · next hc =>
      obtain ⟨⟨token, r⟩, hr, he⟩ := Option.map_eq_some_iff.1 h
      cases he
      exact List.not_mem_cons_of_ne_of_not_mem (Ne.symm hc) (ih hr)

/-- A token that opens without a quote has no blank in it. -/
theorem exists_bare_token {c : Char} (hblank : isBlank c = false) (hc : c ≠ '\'' ∧ c ≠ '"')
    (cs : List Char) :
    ∃ token more, splitChars (c :: cs) = token :: more ∧ ∀ d ∈ token, isBlank d = false := by
  refine ⟨_, _, splitChars_of_bare hblank hc, List.forall_mem_cons.2 ⟨hblank, fun d hd => ?_⟩⟩
  simpa using List.mem_takeWhile_imp hd

/-- **The first token of pieces with an escape among them** has no blank in it, or else it has no
single quote in it while the pieces have one. -/
theorem exists_first_token {c : Char} (hesc : escape c ∈ ps) (rest : List Char) :
    ∃ token more, splitChars (ps.flatMap written ++ rest) = token :: more ∧
      ((∀ d ∈ token, isBlank d = false) ∨ '\'' ∈ ps.map char ∧ '\'' ∉ token) := by
  induction ps with
  | nil => cases hesc
  | cons p ps ih =>
    rw [List.flatMap_cons, List.append_assoc]
    cases p with
    | escape d =>
      obtain ⟨token, more, hsplit, hword⟩ := exists_bare_token (c := '\\') (by decide)
        (by decide) (d :: (ps.flatMap written ++ rest))
      exact ⟨token, more, hsplit, .inl hword⟩
    | plain d hd =>
      have hmem : escape c ∈ ps := by simpa using hesc
      obtain ⟨token, more, hsplit, htoken⟩ := ih hmem
      have hlater : (∀ e ∈ token, isBlank e = false) ∨
          '\'' ∈ (plain d hd :: ps).map char ∧ '\'' ∉ token :=
        htoken.imp_right fun h => ⟨List.mem_cons_of_mem _ h.1, h.2⟩
      rw [written, List.singleton_append]
      cases hblank : isBlank d with
      | true => exact ⟨token, more, (splitChars_cons_of_isBlank hblank).trans hsplit, hlater⟩
      | false =>
        by_cases hquote : d = '\''
        · subst hquote
          cases hread : quotedToken? '\'' (ps.flatMap written ++ rest) with
          | none =>
            exact ⟨token, more, (splitChars_of_unclosed (.inl rfl) hread).trans hsplit, hlater⟩
          | some found =>
            exact ⟨found.1, _, splitChars_of_quoted (.inl rfl) hread,
              .inr ⟨List.mem_cons_self, not_mem_of_singleQuoted? hread⟩⟩
        · obtain ⟨token, more, hsplit, hword⟩ := exists_bare_token hblank ⟨hquote, hd.1⟩
            (ps.flatMap written ++ rest)
          exact ⟨token, more, hsplit, .inl hword⟩

/-- With an escaped line feed, the pieces are not one token. -/
theorem splitChars_ne_of_mem (h : escape '\n' ∈ ps) (rest : List Char) :
    splitChars (ps.flatMap written ++ rest) ≠ [ps.map char] := by
  obtain ⟨token, more, hsplit, htoken⟩ := exists_first_token h rest
  intro hone
  obtain rfl : token = ps.map char := (List.cons.inj (hsplit.symm.trans hone)).1
  rcases htoken with hword | ⟨hmem, hnot⟩
  · have hline : '\n' ∈ ps.map char := List.mem_map_of_mem (f := char) h
    exact absurd (hword '\n' hline) (by decide)
  · exact hnot hmem

/-! ## The law -/

/-- **What stands between double quotes is one token exactly if no line feed is escaped in it**: the
characters that its pieces stand for.  Where a line feed is escaped, the opening quote is passed
over, and what follows it is split as if it stood alone. -/
theorem split_enclosed (ps : List Piece) :
    (split (enclosed ps) = [text ps] ↔ escape '\n' ∉ ps) ∧
      (escape '\n' ∈ ps → split (enclosed ps) = split (unopened ps)) := by
  have hone : split (enclosed ps) = [text ps] ↔
      splitChars ('"' :: (ps.flatMap written ++ ['"'])) = [ps.map char] := by
    rw [← toList_enclosed, ← split_eq_map_iff]
    rfl
  refine ⟨hone.trans ⟨fun h hmem => ?_, splitChars_enclosed⟩, fun hmem => ?_⟩
  · rw [splitChars_enclosed_of_mem hmem] at h
    exact splitChars_ne_of_mem hmem _ h
  · rw [split, split, toList_enclosed, splitChars_enclosed_of_mem hmem, unopened,
      String.toList_ofList]

/-- Pieces of all kinds, with quotes of both kinds and a line feed among them, and pieces with an
escaped line feed. -/
theorem split_enclosed_pieces :
    split "\"'\\\"\\\\\n\\n\"" = ["'\"\\\nn"] ∧
      split "\"\\\n' '\"" = split "\\\n' '\"" :=
  ⟨(split_enclosed [.plain '\'' (by decide), .escape '"', .escape '\\', .plain '\n' (by decide),
      .escape 'n']).1.2 (by decide),
    (split_enclosed [.escape '\n', .plain '\'' (by decide), .plain ' ' (by decide),
      .plain '\'' (by decide)]).2 (by decide)⟩

/-- **An escaped line feed takes a quoted text apart**: its quotes are balanced, and yet the opening
one is passed over. -/
theorem split_escaped_lineFeed :
    enclosed [.plain 'a' (by decide), .escape '\n', .plain 'b' (by decide)] = "\"a\\\nb\"" ∧
      text [.plain 'a' (by decide), .escape '\n', .plain 'b' (by decide)] = "a\nb" ∧
      split "\"a\\\nb\"" = ["a\\", "b\""] := by
  decide +kernel

end CommandSpec.Token
