import CommandSpec.Docs.Reader
import CommandSpec.Proofs.Text.Margin

/-!
# Proofs/Docs/Page — documentation as it is written

A page is a usage with its description, and below it sections, in any order and with blank lines
between them.  Each section is a heading, written `# Heading` or `Heading:`, and a block of lines.
`Page.IsSound` says which pages are documentation, `Page.text` how a page is printed, and
`Page.docs` what it documents.
-/

namespace CommandSpec

/-- The words that head a section, in lower case. -/
def Section.synonyms : Section → List String
  | .summary => ["description", "overview", "summary"]
  | .arguments => ["arguments", "parameters"]
  | .examples => ["examples"]

namespace Docs

open Text

/-! ## The parts of a page -/

/-- The heading of a section: its word, and which of the two forms it has. -/
structure Heading where
  word : List Char
  hashed : Bool
  deriving DecidableEq, Repr

namespace Heading

/-- `# word` or `word:`. -/
def line (h : Heading) : List Char :=
  if h.hashed then '#' :: ' ' :: h.word else h.word ++ [':']

/-- The word with the letters of ASCII lowered. -/
def lowered (h : Heading) : String := .ofList (h.word.map Char.toLower)

/-- Whether a character may stand in a word of the form. -/
def Admits (h : Heading) (c : Char) : Prop :=
  c.toNat < 0x80 ∧ if h.hashed then isBlank c = false else isWord c = true

/-- **What a heading may be.**  A known section has one of its synonyms above it, in any case; every
other word that the form admits heads a section that is passed over. -/
def Heads (h : Heading) : Option Section → Prop
  | some s => h.lowered ∈ s.synonyms
  | none => h.word ≠ [] ∧ (∀ c ∈ h.word, h.Admits c) ∧ ∀ s : Section, h.lowered ∉ s.synonyms

end Heading

/-- Whether a name can head an entry. -/
def IsEntryName (name : List Char) : Prop := name ≠ [] ∧ trim name = name ∧ ':' ∉ name

/-- Whether a line goes on with the text of an entry: it is not blank, and no colon is in it. -/
def GoesOn (l : List Char) : Prop := allBlank l = false ∧ ':' ∉ l

/-- What is written of one argument: after its name, and on the lines below. -/
structure Remark where
  first : List Char
  more : List (List Char)
  deriving DecidableEq, Repr

namespace Remark

/-- The entry of a name. -/
def lines (r : Remark) (name : String) : List (List Char) :=
  (name.toList ++ ':' :: ' ' :: r.first) :: r.more

/-- The lines that are not blank, on one line. -/
def text (r : Remark) : String := .ofList (flowed ((r.first :: r.more).filter (!allBlank ·)))

/-- The lines below the name open no entry of their own. -/
def Continues (r : Remark) : Prop := ∀ l ∈ r.more, GoesOn l

end Remark

/-- What stands below a heading. -/
inductive Block where
  | summary (lines : List (List Char))
  /-- The arguments in the order of their entries, and what is written of each. -/
  | arguments (names : List String) (written : String → Remark)
  | examples (lines : List (List Char))
  | other (lines : List (List Char))

namespace Block

/-- The known section that a block belongs to. -/
def section? : Block → Option Section
  | summary _ => some .summary
  | arguments .. => some .arguments
  | examples _ => some .examples
  | other _ => none

/-- The lines of a block. -/
def lines : Block → List (List Char)
  | summary ls | examples ls | other ls => ls
  | arguments names written => names.flatMap fun n => (written n).lines n

/-- **What a block may be.**  No line is blank, the entries are those of the declared arguments, and
an example is not indented. -/
def Fits (usage : Usage) : Block → Prop
  | summary ls | other ls => ∀ l ∈ ls, allBlank l = false
  | arguments names written => names.Perm usage.names ∧ ∀ n ∈ names, (written n).Continues
  | examples ls => (∀ l ∈ ls, allBlank l = false) ∧ ∃ l ∈ ls, startsIndented l = false

/-- The summary that a block gives. -/
def summary? : Block → Option String
  | summary ls => some (.ofList (flowed ls))
  | _ => none

/-- The documented arguments that a block gives, in the order of the usage. -/
def args? (usage : Usage) : Block → Option (List ArgumentDoc)
  | arguments _ written =>
    some (usage.arguments.map fun a => ⟨a.name, a.isRequired, (written a.name).text⟩)
  | _ => none

/-- The examples that a block gives. -/
def examples? : Block → Option String
  | examples ls => some (.ofList (unlines ls))
  | _ => none

end Block

/-- A section below the blank lines that set it apart. -/
structure Passage where
  gap : List (List Char)
  heading : Heading
  block : Block

namespace Passage

/-- The known section that it is. -/
def section? (s : Passage) : Option Section := s.block.section?

/-- The lines of a section that are not blank. -/
def paragraph (s : Passage) : List (List Char) := s.heading.line :: s.block.lines

/-- The lines of a section. -/
def lines (s : Passage) : List (List Char) := s.gap ++ s.paragraph

/-- **What a section may be.**  Blank lines set it apart, and the heading heads the block. -/
structure IsSound (s : Passage) (usage : Usage) : Prop where
  gap_ne : s.gap ≠ []
  gap : ∀ l ∈ s.gap, allBlank l = true
  heading : s.heading.Heads s.section?
  block : s.block.Fits usage

end Passage

/-- **Documentation as it is written**: a usage line and its description, sections, and blank lines
at the end. -/
structure Page where
  usageLine : String
  desc : String
  passages : List Passage
  ending : List (List Char)

namespace Page

/-- The usage between backquotes, and its description. -/
def opening (p : Page) : List Char :=
  '\x60' :: p.usageLine.toList ++ '\x60' :: ' ' :: p.desc.toList

/-- The lines below the first. -/
def below (p : Page) : List (List Char) := p.passages.flatMap Passage.lines ++ p.ending

/-- The known sections of a page, in their order. -/
def sections (p : Page) : List Section := p.passages.filterMap Passage.section?

/-- A page as a text, the lines below the first indented. -/
def text (p : Page) (margin : Nat) : String :=
  .ofList (unlines (p.opening :: p.below.map (indented margin)))

/-- What a page documents. -/
def docs (p : Page) (usage : Usage) : CommandDocs where
  usage
  desc :=
    { summary := p.passages.findSome? (·.block.summary?)
      args := (p.passages.findSome? (·.block.args? usage)).getD []
      examples := p.passages.findSome? (·.block.examples?) }

/-- **Which pages are documentation** of a usage. -/
structure IsSound (p : Page) (usage : Usage) : Prop where
  usageLine : Usage.ofLine? p.usageLine p.desc = .ok usage
  unquoted : '\x60' ∉ p.usageLine.toList
  desc_ne : p.desc ≠ ""
  desc_trim : trim p.desc.toList = p.desc.toList
  desc_head : p.desc.toList.head? ≠ some ':'
  names : ∀ n ∈ usage.names, IsEntryName n.toList
  plain : ∀ l ∈ p.opening :: p.below, IsPlain l
  passages : ∀ s ∈ p.passages, s.IsSound usage
  ending : ∀ l ∈ p.ending, allBlank l = true
  once : p.sections.Nodup
  /-- Arguments are documented where there are some. -/
  documented : usage.names = [] ∨ .arguments ∈ p.sections

end Page

/-! ## Sections can be checked -/

instance (name : List Char) : Decidable (IsEntryName name) :=
  inferInstanceAs (Decidable (_ ∧ _))

instance (l : List Char) : Decidable (GoesOn l) := inferInstanceAs (Decidable (_ ∧ _))

instance (r : Remark) : Decidable r.Continues :=
  inferInstanceAs (Decidable (∀ l ∈ r.more, GoesOn l))

instance (word : String) : Decidable (∀ s : Section, word ∉ s.synonyms) :=
  decidable_of_iff (∀ s ∈ [Section.summary, .arguments, .examples], word ∉ s.synonyms)
    ⟨fun h s => h s (by cases s <;> decide), fun h s _ => h s⟩

instance (h : Heading) (c : Char) : Decidable (h.Admits c) := inferInstanceAs (Decidable (_ ∧ _))

instance (h : Heading) : (s? : Option Section) → Decidable (h.Heads s?)
  | some s => inferInstanceAs (Decidable (h.lowered ∈ s.synonyms))
  | none =>
    letI : Decidable (∀ c ∈ h.word, h.Admits c) := List.decidableBAll h.Admits h.word
    inferInstanceAs (Decidable (_ ∧ _ ∧ _))

instance (usage : Usage) : (b : Block) → Decidable (b.Fits usage)
  | .summary ls | .other ls => inferInstanceAs (Decidable (∀ l ∈ ls, allBlank l = false))
  | .arguments .. | .examples _ => inferInstanceAs (Decidable (_ ∧ _))

instance (s : Passage) (usage : Usage) : Decidable (s.IsSound usage) :=
  decidable_of_iff (s.gap ≠ [] ∧ (∀ l ∈ s.gap, allBlank l = true) ∧
      s.heading.Heads s.section? ∧ s.block.Fits usage)
    ⟨fun ⟨h₁, h₂, h₃, h₄⟩ => ⟨h₁, h₂, h₃, h₄⟩, fun ⟨h₁, h₂, h₃, h₄⟩ => ⟨h₁, h₂, h₃, h₄⟩⟩

end Docs

end CommandSpec
