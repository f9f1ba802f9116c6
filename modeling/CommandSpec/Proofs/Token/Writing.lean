import CommandSpec.Proofs.Text.Blank
import CommandSpec.Token.Split

/-!
# Proofs/Token/Writing — a line that is written is split into what has been written

A token can be written as it is, between single quotes, or between double ones with what is special
there escaped (`Item.written`).  Where blanks set the items of a line apart, the line is split into
their texts (`split_text`): the scanner takes each item as a whole, because it stops where the item
does (`splitChars_written`), and the rest goes by induction along the line.  Between double quotes
every text can be written, so every list of texts is that of some line (`Line.quoting`).
-/

namespace CommandSpec.Token

open Text

/-! ## Items -/

/-- How an item is written. -/
inductive Quoting where
  | bare | single | double
  deriving DecidableEq, Repr

/-- A text, and how it is written as an item of a line. -/
structure Item where
  quoting : Quoting
  text : String
  deriving DecidableEq, Repr

/-- A character between double quotes. -/
def escaped (c : Char) : List Char := if c = '"' ∨ c = '\\' then ['\\', c] else [c]

namespace Item

/-- An item as it stands in a line. -/
def written : Item → List Char
  | ⟨.bare, s⟩ => s.toList
  | ⟨.single, s⟩ => '\'' :: s.toList ++ ['\'']
  | ⟨.double, s⟩ => '"' :: s.toList.flatMap escaped ++ ['"']

/-- **Which texts can be written** in which way. -/
def IsSound : Item → Prop
  | ⟨.bare, s⟩ => s ≠ "" ∧ (∀ c ∈ s.toList, isBlank c = false) ∧
      ∀ c ∈ s.toList.head?, c ≠ '\'' ∧ c ≠ '"'
  | ⟨.single, s⟩ => '\'' ∉ s.toList
  | ⟨.double, _⟩ => True

instance : (i : Item) → Decidable i.IsSound
  | ⟨.bare, s⟩ =>
    haveI := List.decidableBAll (isBlank · = false) s.toList
    haveI := Option.decidableForallMem (p := fun c => c ≠ '\'' ∧ c ≠ '"') s.toList.head?
    instDecidableAnd
  | ⟨.single, s⟩ => inferInstanceAs (Decidable ('\'' ∉ s.toList))
  | ⟨.double, _⟩ => .isTrue trivial

end Item

/-! ## Lines -/

/-- Blanks, and items with the blanks behind each of them. -/
structure Line where
  front : List Char
  items : List (Item × List Char)

namespace Line

/-- Items as they stand in a line, one after the other. -/
def chars (items : List (Item × List Char)) : List Char := items.flatMap fun i => i.1.written ++ i.2

theorem chars_cons (i : Item × List Char) (items : List (Item × List Char)) :
    chars (i :: items) = i.1.written ++ (i.2 ++ chars items) := by
  rw [chars, List.flatMap_cons, List.append_assoc, ← chars]

/-- A line as a text. -/
def text (l : Line) : String := .ofList (l.front ++ chars l.items)

/-- What is written in a line. -/
def tokens (l : Line) : List String := l.items.map (·.1.text)

/-- **Which lines can be written**: every item in its way, with blanks between any two. -/
structure IsSound (l : Line) : Prop where
  front : allBlank l.front = true
  sound : ∀ i ∈ l.items, i.1.IsSound
  gaps : ∀ i ∈ l.items, allBlank i.2 = true
  apart : ∀ i ∈ l.items.dropLast, i.2 ≠ []

instance (l : Line) : Decidable l.IsSound :=
  decidable_of_iff (allBlank l.front = true ∧ (∀ i ∈ l.items, i.1.IsSound) ∧
      (∀ i ∈ l.items, allBlank i.2 = true) ∧ ∀ i ∈ l.items.dropLast, i.2 ≠ [])
    ⟨fun ⟨h₁, h₂, h₃, h₄⟩ => ⟨h₁, h₂, h₃, h₄⟩, fun ⟨h₁, h₂, h₃, h₄⟩ => ⟨h₁, h₂, h₃, h₄⟩⟩

/-- A line in which every text is between double quotes, and a space behind it. -/
def quoting (texts : List String) : Line := ⟨[], texts.map fun s => (⟨.double, s⟩, [' '])⟩

theorem isSound_quoting (texts : List String) : (quoting texts).IsSound where
  front := rfl
  sound i hi := by
    obtain ⟨s, -, rfl⟩ := List.mem_map.1 hi
    trivial
  gaps i hi := by
    obtain ⟨s, -, rfl⟩ := List.mem_map.1 hi
    rfl
  apart i hi := by
    obtain ⟨s, -, rfl⟩ := List.mem_map.1 (List.dropLast_subset _ hi)
    exact List.cons_ne_nil _ _

theorem tokens_quoting (texts : List String) : (quoting texts).tokens = texts := by
  rw [tokens, quoting, List.map_map]
  exact List.map_id texts

end Line

/-! ## Between quotes -/

section Quoted

variable {c : Char} {cs token rest : List Char}

/-- The text between single quotes ends with the first one. -/
theorem singleQuoted?_append (h : '\'' ∉ token) (rest : List Char) :
    singleQuoted? (token ++ '\'' :: rest) = some (token, rest) := by
  induction token with
  | nil => rfl
  | cons c cs ih =>
    rw [List.mem_cons, not_or] at h
    rw [List.cons_append, singleQuoted?, if_neg (Ne.symm h.1), ih h.2]
    rfl

/-- A backslash makes the character behind it stand for itself, on the same line. -/
theorem doubleQuoted?_escape (c : Char) (cs : List Char) :
    doubleQuoted? ('\\' :: c :: cs) =
      if c = '\n' then none else (doubleQuoted? cs).map fun r => (c :: r.1, r.2) := rfl

/-- Any other character stands for itself. -/
theorem doubleQuoted?_plain (hquote : c ≠ '"') (hslash : c ≠ '\\') (cs : List Char) :
    doubleQuoted? (c :: cs) = (doubleQuoted? cs).map fun r => (c :: r.1, r.2) := by
  rw [doubleQuoted?.eq_4 c cs (fun hc => hquote hc) (fun _ _ hc _ => hslash hc), if_neg hslash]

/-- **What is escaped is read back**, up to the closing quote. -/
theorem doubleQuoted?_escaped (s rest : List Char) :
    doubleQuoted? (s.flatMap escaped ++ '"' :: rest) = some (s, rest) := by
  induction s with
  | nil => rfl
  | cons c cs ih =>
    rw [List.flatMap_cons, List.append_assoc, escaped]
    by_cases hc : c = '"' ∨ c = '\\'
    · have hline : c ≠ '\n' := by rintro rfl; simp at hc
      rw [if_pos hc, List.cons_append, List.singleton_append, doubleQuoted?_escape, if_neg hline,
        ih]
      rfl
    · obtain ⟨hquote, hslash⟩ := not_or.1 hc
      rw [if_neg hc, List.singleton_append, doubleQuoted?_plain hquote hslash, ih]
      rfl

end Quoted

/-! ## The scanner -/

section Scanner

variable {c : Char} {cs g s token rest : List Char}

@[simp] theorem splitChars_nil : splitChars [] = [] := by rw [splitChars]

theorem splitChars_cons_of_isBlank (hc : isBlank c = true) :
    splitChars (c :: cs) = splitChars cs := by rw [splitChars, if_pos hc]

/-- Blanks in front of a line make no difference. -/
theorem splitChars_append_of_allBlank (hg : allBlank g = true) :
    splitChars (g ++ s) = splitChars s := by
  induction g with
  | nil => rfl
  | cons c cs ih =>
    rw [allBlank_cons, Bool.and_eq_true] at hg
    rw [List.cons_append, splitChars_cons_of_isBlank hg.1, ih hg.2]

theorem splitChars_of_quote (hc : c = '\'' ∨ c = '"') :
    splitChars (c :: cs) = match quotedToken? c cs with
      | some (token, rest) => token :: splitChars rest
      | none => splitChars cs := by
  have hblank : isBlank c ≠ true := by rcases hc with rfl | rfl <;> decide
  have hquote : (c = '\'' || c = '"') = true := by simpa using hc
  rw [splitChars, if_neg hblank, if_pos hquote]
  split
  · next h => simp only [h]
  · next h => simp only [h]

/-- A quote that is closed opens a token. -/
theorem splitChars_of_quoted (hc : c = '\'' ∨ c = '"')
    (h : quotedToken? c cs = some (token, rest)) :
    splitChars (c :: cs) = token :: splitChars rest := by
  rw [splitChars_of_quote hc, h]

/-- A quote that is never closed is passed over. -/
theorem splitChars_of_unclosed (hc : c = '\'' ∨ c = '"') (h : quotedToken? c cs = none) :
    splitChars (c :: cs) = splitChars cs := by
  rw [splitChars_of_quote hc, h]

/-- Anything else goes on to the next blank. -/
theorem splitChars_of_bare (hblank : isBlank c = false) (hc : c ≠ '\'' ∧ c ≠ '"') :
    splitChars (c :: cs)
      = (c :: cs.takeWhile (!isBlank ·)) :: splitChars (cs.dropWhile (!isBlank ·)) := by
  rw [splitChars, if_neg (by simp [hblank]), if_neg (by simpa using hc)]

/-- A line has the tokens that its characters are split into. -/
theorem split_eq_map_iff {line : String} {tokens : List (List Char)} :
    split line = tokens.map String.ofList ↔ splitChars line.toList = tokens :=
  (List.map_injective_iff.2 fun _ _ => String.ofList_injective).eq_iff

end Scanner

/-! ## The law -/

/-- **An item is taken as a whole**, if a blank follows or the line ends. -/
theorem splitChars_written {i : Item} (hi : i.IsSound) {rest : List Char}
    (hrest : EndsWord rest) :
    splitChars (i.written ++ rest) = i.text.toList :: splitChars rest := by
  obtain ⟨quoting, s⟩ := i
  cases quoting with
  | bare =>
    obtain ⟨hne, hword, hhead⟩ := hi
    obtain ⟨c, cs, hs⟩ := List.exists_cons_of_ne_nil fun h => hne (String.toList_eq_nil_iff.1 h)
    rw [hs] at hword hhead
    obtain ⟨hc, hcs⟩ := List.forall_mem_cons.1 hword
    show splitChars (s.toList ++ rest) = s.toList :: _
    rw [hs, List.cons_append, splitChars_of_bare hc (hhead c rfl),
      takeWhile_append_of_word hcs hrest, dropWhile_append_of_word hcs hrest]
  | single =>
    have hquoted : quotedToken? '\'' (s.toList ++ '\'' :: rest) = some (s.toList, rest) :=
      singleQuoted?_append hi rest
    rw [Item.written, List.cons_append, List.cons_append, List.append_assoc, List.singleton_append,
      splitChars_of_quoted (.inl rfl) hquoted]
  | double =>
    have hquoted : quotedToken? '"' (s.toList.flatMap escaped ++ '"' :: rest)
        = some (s.toList, rest) := doubleQuoted?_escaped s.toList rest
    rw [Item.written, List.cons_append, List.cons_append, List.append_assoc, List.singleton_append,
      splitChars_of_quoted (.inr rfl) hquoted]

/-- Behind an item, a blank follows or the line ends. -/
theorem endsWord_gap {gap : List Char} {items : List (Item × List Char)}
    (hgap : allBlank gap = true) (h : items ≠ [] → gap ≠ []) :
    EndsWord (gap ++ Line.chars items) := by
  cases gap with
  | nil =>
    have hnil : items = [] := by_contra fun hne => h hne rfl
    rw [hnil]
    exact endsWord_of_allBlank allBlank_nil
  | cons d ds => exact endsWord_of_allBlank (s := d :: ds) hgap

/-- Items that are set apart are taken one by one. -/
theorem splitChars_chars {items : List (Item × List Char)} (hsound : ∀ i ∈ items, i.1.IsSound)
    (hgaps : ∀ i ∈ items, allBlank i.2 = true) (hapart : ∀ i ∈ items.dropLast, i.2 ≠ []) :
    splitChars (Line.chars items) = items.map (·.1.text.toList) := by
  induction items with
  | nil => exact splitChars_nil
  | cons i items ih =>
    obtain ⟨hi, hsound⟩ := List.forall_mem_cons.1 hsound
    obtain ⟨hgap, hgaps⟩ := List.forall_mem_cons.1 hgaps
    have hstop := endsWord_gap hgap fun hne =>
      hapart i (List.dropLast_cons_of_ne_nil hne ▸ List.mem_cons_self ..)
    have hmore : ∀ j ∈ items.dropLast, j.2 ≠ [] := fun j hj => hapart j
      (List.dropLast_cons_of_ne_nil (List.ne_nil_of_mem (List.dropLast_subset _ hj)) ▸
        List.mem_cons_of_mem i hj)
    rw [Line.chars_cons, splitChars_written hi hstop, splitChars_append_of_allBlank hgap,
      ih hsound hgaps hmore, List.map_cons]

/-- **A line that is written is split into what has been written**, and every list of texts is
written by some line. -/
theorem split_text : (∀ l : Line, l.IsSound → split l.text = l.tokens) ∧
    ∀ texts, ∃ l : Line, l.IsSound ∧ l.tokens = texts ∧ split l.text = texts := by
  have key (l : Line) (hl : l.IsSound) : split l.text = l.tokens := by
    rw [split, Line.text, String.toList_ofList, splitChars_append_of_allBlank hl.front,
      splitChars_chars hl.sound hl.gaps hl.apart, List.map_map, Line.tokens]
    exact List.map_congr_left fun i _ => String.ofList_toList
  refine ⟨key, fun texts => ⟨.quoting texts, Line.isSound_quoting texts,
    Line.tokens_quoting texts, ?_⟩⟩
  rw [key _ (Line.isSound_quoting texts), Line.tokens_quoting]

/-- A line with an item of each kind; one of them is empty, and one goes on to the next line. -/
def sampleLine : Line :=
  ⟨[' '], [(⟨.bare, "don't"⟩, [' ', '\t']), (⟨.double, "say \"\\\n\""⟩, ['\n']),
    (⟨.single, ""⟩, [])]⟩

/-- The line is split into its three items. -/
theorem split_text_sample : sampleLine.IsSound ∧
    sampleLine.text = " don't \t\"say \\\"\\\\\n\\\"\"\n''" ∧
    split " don't \t\"say \\\"\\\\\n\\\"\"\n''" = ["don't", "say \"\\\n\"", ""] := by
  have hsound : sampleLine.IsSound := by decide
  have htext : sampleLine.text = " don't \t\"say \\\"\\\\\n\\\"\"\n''" := by decide
  exact ⟨hsound, htext, htext ▸ split_text.1 sampleLine hsound⟩

end CommandSpec.Token
