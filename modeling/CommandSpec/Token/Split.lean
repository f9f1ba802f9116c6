import CommandSpec.Text.Blank

/-!
# Token/Split — splitting a line into tokens

Tokens are set off by blanks.  A token that opens with a quote goes on to the closing one, blanks
included: between single quotes everything stands for itself, between double quotes a backslash
makes the next character on its line stand for itself.  A quote that is never closed is passed over.
-/

namespace CommandSpec.Token

open Text

/-- The text up to the closing single quote, and what follows it. -/
def singleQuoted? : List Char → Option (List Char × List Char)
  | [] => none
  | c :: cs => if c = '\'' then some ([], cs) else (singleQuoted? cs).map fun r => (c :: r.1, r.2)

/-- The text up to the closing double quote with its escapes resolved, and what follows it. -/
def doubleQuoted? : List Char → Option (List Char × List Char)
  | [] => none
  | '"' :: cs => some ([], cs)
  | '\\' :: c :: cs =>
    if c = '\n' then none else (doubleQuoted? cs).map fun r => (c :: r.1, r.2)
  | c :: cs => if c = '\\' then none else (doubleQuoted? cs).map fun r => (c :: r.1, r.2)

theorem length_of_singleQuoted? :
    ∀ {s t r : List Char}, singleQuoted? s = some (t, r) → r.length < s.length
  | [], _, _, h => by simp [singleQuoted?] at h
  | c :: cs, t, r, h => by
    rw [singleQuoted?] at h
    split at h
    · obtain ⟨_, rfl⟩ := by simpa using h
      simp
    · obtain ⟨⟨t', r'⟩, h', he⟩ := Option.map_eq_some_iff.1 h
      obtain ⟨_, rfl⟩ := by simpa using he
      exact Nat.lt_succ_of_lt (length_of_singleQuoted? h')

theorem length_of_doubleQuoted? {s t r : List Char} (h : doubleQuoted? s = some (t, r)) :
    r.length < s.length := by
  fun_induction doubleQuoted? s generalizing t r with
  | case1 => simp at h
  | case2 cs =>
    obtain ⟨_, rfl⟩ := by simpa using h
    simp
  | case3 => simp at h
  | case4 c cs _ ih =>
    obtain ⟨⟨t', r'⟩, h', he⟩ := Option.map_eq_some_iff.1 h
    obtain ⟨_, rfl⟩ := by simpa using he
    have := ih h'
    simp only [List.length_cons]
    omega
  | case5 => simp at h
  | case6 c cs _ _ _ ih =>
    obtain ⟨⟨t', r'⟩, h', he⟩ := Option.map_eq_some_iff.1 h
    obtain ⟨_, rfl⟩ := by simpa using he
    exact Nat.lt_succ_of_lt (ih h')

/-- The token that opens with a quote, if the quote is closed. -/
def quotedToken? (q : Char) (cs : List Char) : Option (List Char × List Char) :=
  if q = '\'' then singleQuoted? cs else doubleQuoted? cs

theorem length_of_quotedToken? {q : Char} {cs t r : List Char}
    (h : quotedToken? q cs = some (t, r)) : r.length < cs.length := by
  unfold quotedToken? at h
  split at h
  · exact length_of_singleQuoted? h
  · exact length_of_doubleQuoted? h

/-- **The tokens of a line.** -/
def splitChars (s : List Char) : List (List Char) :=
  match s with
  | [] => []
  | c :: cs =>
    if isBlank c then splitChars cs
    else if c = '\'' || c = '"' then
      match h : quotedToken? c cs with
      | some (token, rest) =>
        have : rest.length < cs.length := length_of_quotedToken? h
        token :: splitChars rest
      | none => splitChars cs
    else
      (c :: cs.takeWhile (!isBlank ·)) :: splitChars (cs.dropWhile (!isBlank ·))
termination_by s.length
decreasing_by
  · simp
  · simp only [List.length_cons]; omega
  · simp
  · exact Nat.lt_succ_of_le (length_dropWhile_le _ _)

/-- The tokens of a line. -/
def split (line : String) : List String := (splitChars line.toList).map String.ofList

end CommandSpec.Token
