import CommandSpec.Proofs.Text.Words
import CommandSpec.Proofs.Token.Writing

/-!
# Proofs/Token/Kept — splitting a line loses and reorders nothing

Blanks, quotes and backslashes are **markup**: they set tokens apart, enclose them, and escape what
is in them.  Everything else is kept by the tokens, in its order (`kept_flatten_splitChars`),
because each step of the scanner keeps it: a scan between quotes keeps what it reads and what it
leaves, and a quote that is passed over is markup itself.  In a line without quotes backslashes are
kept too, and the tokens are the words (`splitChars_of_unquoted`).
-/

namespace CommandSpec.Token

open Text

variable {c : Char} {s t cs token rest : List Char}

/-- What sets tokens apart, encloses them, or escapes what is in them. -/
def isMarkup (c : Char) : Bool := isBlank c || c = '\'' || c = '"' || c = '\\'

/-- A text without its markup. -/
def kept (s : List Char) : List Char := s.filter (!isMarkup ·)

theorem kept_append : kept (s ++ t) = kept s ++ kept t := List.filter_append ..

theorem kept_cons_of_isMarkup (hc : isMarkup c = true) : kept (c :: s) = kept s :=
  List.filter_cons_of_neg (by simp [hc])

theorem isMarkup_of_isBlank (hc : isBlank c = true) : isMarkup c = true := by simp [isMarkup, hc]

theorem isMarkup_of_quote (hc : c = '\'' ∨ c = '"') : isMarkup c = true := by
  rcases hc with rfl | rfl <;> rfl

/-- A character in front is kept or left out by both sides. -/
theorem kept_cons_eq (c : Char) (h : kept cs = kept token ++ kept rest) :
    kept (c :: cs) = kept (c :: token) ++ kept rest := by
  have hcons (s : List Char) : kept (c :: s) = kept [c] ++ kept s := kept_append (s := [c])
  rw [hcons cs, hcons token, h, List.append_assoc]

/-! ## Between quotes -/

/-- **A scan between single quotes keeps what it reads and what it leaves.** -/
theorem kept_of_singleQuoted? (h : singleQuoted? s = some (token, rest)) :
    kept s = kept token ++ kept rest := by
  induction s generalizing token with
  | nil => cases h
  | cons c cs ih =>
    rw [singleQuoted?] at h
    split at h
    · next hc =>
      cases h
      exact kept_cons_of_isMarkup (isMarkup_of_quote (.inl hc))
    · obtain ⟨⟨token, r⟩, hr, he⟩ := Option.map_eq_some_iff.1 h
      cases he
      exact kept_cons_eq c (ih hr)

/-- **A scan between double quotes keeps what it reads and what it leaves**: the backslashes that it
resolves are markup. -/
theorem kept_of_doubleQuoted? (h : doubleQuoted? s = some (token, rest)) :
    kept s = kept token ++ kept rest := by
  fun_induction doubleQuoted? s generalizing token with
  | case1 => cases h
  | case2 cs =>
    cases h
    rfl
  | case3 => cases h
  | case4 c cs _ ih =>
    obtain ⟨⟨token, r⟩, hr, he⟩ := Option.map_eq_some_iff.1 h
    cases he
    rw [kept_cons_of_isMarkup rfl]
    exact kept_cons_eq c (ih hr)
  | case5 => cases h
  | case6 c cs _ _ _ ih =>
    obtain ⟨⟨token, r⟩, hr, he⟩ := Option.map_eq_some_iff.1 h
    cases he
    exact kept_cons_eq c (ih hr)

theorem kept_of_quotedToken? {q : Char} (h : quotedToken? q cs = some (token, rest)) :
    kept cs = kept token ++ kept rest := by
  unfold quotedToken? at h
  split at h
  · exact kept_of_singleQuoted? h
  · exact kept_of_doubleQuoted? h

/-! ## The scanner -/

/-- **The tokens of a line keep all of it but markup**, in its order. -/
theorem kept_flatten_splitChars (s : List Char) : kept (splitChars s).flatten = kept s := by
  induction s using splitChars.induct with
  | case1 => rw [splitChars_nil, List.flatten_nil]
  | case2 c cs hblank ih =>
    rw [splitChars_cons_of_isBlank hblank, ih, kept_cons_of_isMarkup (isMarkup_of_isBlank hblank)]
  | case3 c cs _ hquote token rest h _ ih =>
    have hc : c = '\'' ∨ c = '"' := by simpa using hquote
    rw [splitChars_of_quoted hc h, List.flatten_cons, kept_append, ih,
      kept_cons_of_isMarkup (isMarkup_of_quote hc), kept_of_quotedToken? h]
  | case4 c cs _ hquote h ih =>
    have hc : c = '\'' ∨ c = '"' := by simpa using hquote
    rw [splitChars_of_unclosed hc h, ih, kept_cons_of_isMarkup (isMarkup_of_quote hc)]
  | case5 c cs hblank hquote ih =>
    have hc : c ≠ '\'' ∧ c ≠ '"' := by simpa using hquote
    rw [splitChars_of_bare (by simpa using hblank) hc, List.flatten_cons, kept_append, ih,
      ← kept_append, List.cons_append, List.takeWhile_append_dropWhile]

/-- **In a line without quotes the tokens are the words.** -/
theorem splitChars_of_unquoted (hs : '\'' ∉ s ∧ '"' ∉ s) : splitChars s = words s := by
  induction s using word_induction with
  | nil => exact splitChars_nil
  | blank c s hc ih =>
    rw [splitChars_cons_of_isBlank hc, words_cons_of_isBlank hc,
      ih ⟨fun h => hs.1 (List.mem_cons_of_mem c h), fun h => hs.2 (List.mem_cons_of_mem c h)⟩]
  | word w s hw hend ih =>
    obtain ⟨c, cs, rfl⟩ := List.exists_cons_of_ne_nil hw.1
    obtain ⟨hc, hcs⟩ := List.forall_mem_cons.1 hw.2
    have hquote : c ≠ '\'' ∧ c ≠ '"' :=
      ⟨fun h => hs.1 (h ▸ List.mem_cons_self), fun h => hs.2 (h ▸ List.mem_cons_self)⟩
    rw [words_append hw hend, List.cons_append, splitChars_of_bare hc hquote,
      takeWhile_append_of_word hcs hend, dropWhile_append_of_word hcs hend,
      ih ⟨fun h => hs.1 (List.mem_append_right _ h), fun h => hs.2 (List.mem_append_right _ h)⟩]

/-! ## The law -/

/-- **Splitting a line loses and reorders nothing.**  The tokens of a line, put together, are the
line itself up to blanks, quotes and backslashes; and the tokens of a line without quotes are its
words. -/
theorem split_keeps (line : String) :
    kept (String.join (split line)).toList = kept line.toList ∧
      ('\'' ∉ line.toList → '"' ∉ line.toList →
        ∀ ws, split line = ws.map String.ofList ↔ HasWords line.toList ws) := by
  refine ⟨?_, fun hsingle hdouble ws => ?_⟩
  · have hjoin : (String.join (split line)).toList = (splitChars line.toList).flatten := by
      rw [String.toList_join, split, List.flatMap_map]
      simp only [String.toList_ofList, List.flatMap_id']
    rw [hjoin, kept_flatten_splitChars]
  · rw [split_eq_map_iff, splitChars_of_unquoted ⟨hsingle, hdouble⟩, hasWords_iff]

/-- A line in which one quote is never closed and backslashes stand between others, and a line
without quotes. -/
theorem split_keeps_mixed :
    kept (String.join (split "don't \"a \\\\b\" 'c\" d")).toList = "dontabcd".toList ∧
      split " a\\b\u3000\nc " = ["a\\b", "c"] :=
  have hsingle : '\'' ∉ " a\\b\u3000\nc ".toList := by decide
  have hdouble : '"' ∉ " a\\b\u3000\nc ".toList := by decide
  ⟨(split_keeps "don't \"a \\\\b\" 'c\" d").1,
    ((split_keeps " a\\b\u3000\nc ").2 hsingle hdouble ["a\\b".toList, ['c']]).2
      (hasWords_iff.2 (by decide))⟩

end CommandSpec.Token
