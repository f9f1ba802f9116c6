import CommandSpec.Docs.Reader
import CommandSpec.Proofs.Step

/-!
# Proofs/Docs/Read — documentation that is read, taken apart

Documentation is read when its first paragraph is a usage with a description, every later paragraph
is a section, and the arguments fit (`read_eq_ok_iff`).
-/

namespace CommandSpec.Docs

open Text Logged

/-- The arguments of a documentation: those of its section, or else none at all. -/
def argsOf (usage : Usage) (sections : Sections) : Except DocsFault (List ArgumentDoc) :=
  match sections.args with
  | some args => .ok args
  | none => readArguments usage ""

/-- A documentation of its parts, once they have been read. -/
def assemble (usage : Usage) (sections : Sections) : Logged CommandDocs := do
  if allBlank usage.desc.toList then throw (DocsFault.undescribed usage.canonical).fault
  else do
    let args ← check DocsFault.fault (argsOf usage sections)
    return ⟨usage, sections.summary, args, sections.examples⟩

theorem read_of_paragraphs {text : Option String} {first : List Char} {more : List (List Char)}
    (h : paragraphsOf (text.getD "") = first :: more) :
    read text = (do
      let usage ← readUsage first
      let sections ← more.foldlM (readSection usage) ⟨none, none, none⟩
      assemble usage sections) := by
  unfold read
  rw [h]
  dsimp only
  refine bind_congr fun usage => bind_congr fun sections => ?_
  rw [assemble]
  by_cases hdesc : allBlank usage.desc.toList = true
  · rw [if_pos hdesc, if_pos hdesc]
    rfl
  · rw [if_neg hdesc, if_neg hdesc]
    unfold argsOf
    cases sections.args <;> rfl

theorem assemble_eq_ok_iff {usage : Usage} {sections : Sections} {docs : CommandDocs}
    {log log' : List Event} :
    assemble usage sections log = .ok docs log' ↔
      allBlank usage.desc.toList = false ∧ ∃ args, argsOf usage sections = .ok args ∧
        ⟨usage, sections.summary, args, sections.examples⟩ = docs ∧ log = log' := by
  rw [assemble]
  cases allBlank usage.desc.toList with
  | true =>
    constructor
    · exact fun h => absurd h throw_ne_ok
    · exact fun h => nomatch h.1
  | false =>
    rw [if_neg Bool.false_ne_true]
    simp only [bind_eq_ok_iff, check_eq_ok_iff, pure_eq_ok_iff, true_and]
    constructor
    · rintro ⟨args, _, ⟨ha, rfl⟩, hdocs, rfl⟩
      exact ⟨args, ha, hdocs, rfl⟩
    · rintro ⟨args, ha, hdocs, rfl⟩
      exact ⟨args, log, ⟨ha, rfl⟩, hdocs, rfl⟩

/-- **Documentation is read** when each of its parts is. -/
theorem read_eq_ok_iff {text : Option String} {docs : CommandDocs} {log log' : List Event} :
    read text log = .ok docs log' ↔ ∃ first more usage log₁ sections args,
      paragraphsOf (text.getD "") = first :: more ∧ readUsage first log = .ok usage log₁ ∧
      more.foldlM (readSection usage) ⟨none, none, none⟩ log₁ = .ok sections log' ∧
      allBlank usage.desc.toList = false ∧ argsOf usage sections = .ok args ∧
      ⟨usage, sections.summary, args, sections.examples⟩ = docs := by
  cases hp : paragraphsOf (text.getD "") with
  | nil =>
    unfold read
    rw [hp]
    constructor
    · exact fun h => absurd h throw_ne_ok
    · rintro ⟨first, more, usage, log₁, sections, args, h, -⟩
      cases h
  | cons first more =>
    rw [read_of_paragraphs hp]
    simp only [bind_eq_ok_iff, assemble_eq_ok_iff]
    constructor
    · rintro ⟨usage, log₁, hu, sections, log₂, hs, hdesc, args, ha, hdocs, rfl⟩
      exact ⟨first, more, usage, log₁, sections, args, rfl, hu, hs, hdesc, ha, hdocs⟩
    · rintro ⟨_, _, usage, log₁, sections, args, ⟨⟩, hu, hs, hdesc, ha, hdocs⟩
      exact ⟨usage, log₁, hu, sections, log', hs, hdesc, args, ha, hdocs, rfl⟩

/-- A usage paragraph is read when its line is a usage. -/
theorem readUsage_eq_ok_iff {paragraph : List Char} {usage : Usage} {log log' : List Event} :
    readUsage paragraph log = .ok usage log' ↔
      Usage.ofParagraph? (.ofList paragraph) = .ok usage ∧
        log ++ [.parsedUsage usage.canonical usage.arity] = log' := by
  rw [readUsage]
  simp only [bind_eq_ok_iff, check_eq_ok_iff]
  constructor
  · rintro ⟨_, _, ⟨h, rfl⟩, _, _, ⟨⟩, ⟨⟩⟩
    exact ⟨h, rfl⟩
  · rintro ⟨h, rfl⟩
    exact ⟨usage, log, ⟨h, rfl⟩, _, _, rfl, rfl⟩

/-! ## Sections

Each known section fills a place that is free, and every other one is logged. -/

section Sections

variable {usage : Usage} {sections : Sections} {paragraph word body : List Char}

theorem readSection_summary (hheader : header? paragraph = some (word, body))
    (hsection : Section.ofHeader? (lower (.ofList word)) = some .summary)
    (hfree : sections.summary = none) (log : List Event) :
    readSection usage sections paragraph log =
      .ok { sections with summary := some (.ofList (relaxedChars body)) } log := by
  unfold readSection
  rw [hheader]
  dsimp only
  rw [hsection]
  dsimp only
  rw [hfree]
  rfl

theorem readSection_arguments {args : List ArgumentDoc}
    (hheader : header? paragraph = some (word, body))
    (hsection : Section.ofHeader? (lower (.ofList word)) = some .arguments)
    (hfree : sections.args = none) (hargs : readArguments usage (.ofList body) = .ok args)
    (log : List Event) :
    readSection usage sections paragraph log = .ok { sections with args := some args } log := by
  unfold readSection
  rw [hheader]
  dsimp only
  rw [hsection]
  dsimp only
  rw [hfree, hargs]
  rfl

theorem readSection_examples (hheader : header? paragraph = some (word, body))
    (hsection : Section.ofHeader? (lower (.ofList word)) = some .examples)
    (hfree : sections.examples = none) (log : List Event) :
    readSection usage sections paragraph log =
      .ok { sections with examples := some (.ofList (trimLineFeeds (dedented body))) } log := by
  unfold readSection
  rw [hheader]
  dsimp only
  rw [hsection]
  dsimp only
  rw [hfree]
  rfl

theorem readSection_ignored (hheader : header? paragraph = some (word, body))
    (hsection : Section.ofHeader? (lower (.ofList word)) = none) (log : List Event) :
    readSection usage sections paragraph log =
      .ok sections (log ++ [.ignoredSection (lower (.ofList word)) usage.canonical]) := by
  unfold readSection
  rw [hheader]
  dsimp only
  rw [hsection]
  rfl

end Sections

end CommandSpec.Docs
