import CommandSpec.Proofs.Docs.Indented
import CommandSpec.Proofs.Docs.Read
import CommandSpec.Proofs.Text.Cleaned
import CommandSpec.Proofs.Usage.Grammar

/-!
# Proofs/Docs/Closed — every text is documentation, or is refused as one

Reading documentation ends in one of two ways, whatever the text: it **gives** documentation that is
consistent, or it reports a fault of documentation or of a usage (`Gives`).  Each part of the reader
keeps to this, and what one section gives, the later ones keep (`Sections.Fit`), so the whole does
(`gives_read`).  The reader takes the first paragraph of a text that is not blank, and the first
line of a paragraph without a header; both are there, since no text loses anything but blanks on the
way to its paragraphs (`paragraphsOf_eq_nil_iff`, `splitLines_trim_ne_nil`).
-/

namespace CommandSpec

open Text

/-! ## Consistent documentation -/

/-- A text without a line feed. -/
def OnOneLine (s : String) : Prop := '\n' ∉ s.toList

/-- **A usage is sound**: it has names, none of them blank, its arguments have different names, and
its description is on one line. -/
structure Usage.IsSound (u : Usage) : Prop where
  ids_ne_nil : u.ids ≠ []
  ids_not_blank : ∀ id ∈ u.ids, allBlank id.toList = false
  nodup_names : u.names.Nodup
  desc : OnOneLine u.desc

/-- **What is documented are the arguments of a usage**, in their order, each as required as it is
there, and described on one line. -/
structure Documents (usage : Usage) (args : List ArgumentDoc) : Prop where
  arguments : args.map (fun a => (a.name, a.isRequired)) =
    usage.arguments.map fun a => (a.name, a.isRequired)
  desc : ∀ a ∈ args, OnOneLine a.desc

/-- **Documentation is consistent**: its usage is sound and described, and the longer description is
one of the arguments of that usage. -/
structure CommandDocs.IsConsistent (docs : CommandDocs) : Prop where
  usage : docs.usage.IsSound
  desc_not_blank : allBlank docs.usage.desc.toList = false
  summary : ∀ s ∈ docs.desc.summary, OnOneLine s
  args : Documents docs.usage docs.desc.args

theorem onOneLine_relaxedChars (s : List Char) : OnOneLine (.ofList (relaxedChars s)) := by
  rw [OnOneLine, String.toList_ofList]
  exact not_mem_relaxedChars s

/-- **A usage that is read is sound.** -/
theorem Usage.isSound_of_ofParagraph? {paragraph : String} {u : Usage}
    (h : ofParagraph? paragraph = .ok u) : u.IsSound := by
  obtain ⟨clause, after, -, hids, -, -, hu⟩ := ofLine?_eq_ok_iff.1 h
  refine ⟨ids_ne_nil h, fun id hid => ?_, nodup_names h, ?_⟩
  · rw [← hu, gathered, List.mem_map] at hid
    obtain ⟨piece, hpiece, rfl⟩ := hid
    rw [String.toList_ofList]
    exact Bool.eq_false_iff.2 (List.any_eq_false.1 hids piece hpiece)
  · rw [← hu]
    exact onOneLine_relaxedChars _

namespace Docs

open Logged

/-! ## Steps that are closed -/

/-- A fault of documentation, or of the usage in it. -/
def IsReported (e : Fault) : Prop := e.kind = "DocumentationError" ∨ e.kind = "UsageSyntaxError"

theorem isReported_docs (e : DocsFault) : IsReported e.fault := by
  cases e <;> exact .inl rfl

theorem isReported_usage (e : UsageFault) : IsReported e.fault := .inr rfl

section Steps

variable {α β : Type} {step : Logged α} {good : α → Prop}

/-- **A step gives** something good, or reports a fault of documentation. -/
def Gives (step : Logged α) (good : α → Prop) : Prop :=
  ∀ log, (∃ a log', step log = .ok a log' ∧ good a) ∨
    ∃ e log', step log = .error e log' ∧ IsReported e

theorem gives_pure {a : α} (ha : good a) : Gives (pure a) good := fun log => .inl ⟨a, log, rfl, ha⟩

theorem gives_throw {e : Fault} (he : IsReported e) : Gives (throw e) good := fun log =>
  .inr ⟨e, log, rfl, he⟩

theorem gives_log (e : Event) : Gives (log e) fun _ => True := fun events =>
  .inl ⟨(), events ++ [e], rfl, trivial⟩

theorem gives_check {ε : Type} {fault : ε → Fault} {result : Except ε α}
    (hgood : ∀ a, result = .ok a → good a) (hfault : ∀ e, IsReported (fault e)) :
    Gives (check fault result) good := by
  cases result with
  | ok a => exact gives_pure (hgood a rfl)
  | error e => exact gives_throw (hfault e)

theorem Gives.bind {next : α → Logged β} {good' : β → Prop} (h : Gives step good)
    (hnext : ∀ a, good a → Gives (next a) good') : Gives (step >>= next) good' := fun log => by
  obtain ⟨a, log', ha, hgood⟩ | ⟨e, log', he, hreported⟩ := h log
  · rw [bind_of_ok ha]
    exact hnext a hgood log'
  · exact .inr ⟨e, log', bind_of_error he, hreported⟩

/-- **What each step keeps, all of them keep.** -/
theorem gives_foldlM {next : β → α → Logged β} {kept : β → Prop}
    (hnext : ∀ b a, kept b → Gives (next b a) kept) (as : List α) {b : β} (hb : kept b) :
    Gives (as.foldlM next b) kept := by
  induction as generalizing b with
  | nil => exact gives_pure hb
  | cons a as ih =>
    rw [List.foldlM_cons]
    exact (hnext b a hb).bind fun _ => ih

end Steps

/-! ## The parts of the reader -/

theorem gives_readUsage (paragraph : List Char) : Gives (readUsage paragraph) Usage.IsSound := by
  refine (gives_check (fun _ => Usage.isSound_of_ofParagraph?) isReported_usage).bind
    fun usage h => ?_
  exact (gives_log _).bind fun _ _ => gives_pure h

/-- What is gathered of an arguments section is on one line, entry by entry. -/
theorem onOneLine_of_gatherEntries {es : List (List Char × List Char)}
    {found all : List (String × String)} (hfound : ∀ e ∈ found, OnOneLine e.2)
    (h : gatherEntries found es = .ok all) : ∀ e ∈ all, OnOneLine e.2 := by
  induction es generalizing found with
  | nil =>
    obtain rfl := Except.ok.inj h
    exact hfound
  | cons entry es ih =>
    obtain ⟨name, text⟩ := entry
    rw [gatherEntries] at h
    split at h
    · cases h
    · refine ih (List.forall_mem_append.2 ⟨hfound, List.forall_mem_singleton.2 ?_⟩) h
      exact onOneLine_relaxedChars text

/-- **An arguments section that is read documents the arguments of the usage.** -/
theorem documents_of_readArguments {usage : Usage} {text : String} {args : List ArgumentDoc}
    (h : readArguments usage text = .ok args) : Documents usage args := by
  obtain ⟨found, hfound, -, rfl⟩ := of_readArguments h
  refine ⟨List.map_map, List.forall_mem_map.2 fun a _ => ?_⟩
  cases hlookup : found.lookup a.name with
  | none => exact List.not_mem_nil
  | some desc =>
    obtain ⟨before, after, rfl, -⟩ := List.lookup_eq_some_iff.1 hlookup
    exact onOneLine_of_gatherEntries (List.forall_mem_nil _) hfound (a.name, desc) (by simp)

/-- **Sections that fit a usage**: the summary is on one line, and the arguments are those of the
usage. -/
structure Sections.Fit (usage : Usage) (sections : Sections) : Prop where
  summary : ∀ s ∈ sections.summary, OnOneLine s
  args : ∀ args ∈ sections.args, Documents usage args

/-- Before the first section nothing is gathered. -/
theorem sections_fit_none (usage : Usage) : Sections.Fit usage ⟨none, none, none⟩ where
  summary := fun _ h => nomatch h
  args := fun _ h => nomatch h

/-- **A section that is read fits too.** -/
theorem gives_readSection {usage : Usage} {sections : Sections} (h : sections.Fit usage)
    (paragraph : List Char) :
    Gives (readSection usage sections paragraph) (Sections.Fit usage) := by
  unfold readSection
  cases header? paragraph with
  | none => exact gives_throw (isReported_docs _)
  | some found =>
    obtain ⟨word, body⟩ := found
    dsimp only
    cases Section.ofHeader? (lower (.ofList word)) with
    | none => exact (gives_log _).bind fun _ _ => gives_pure h
    | some which =>
      cases which with
      | summary =>
        dsimp only
        split
        · exact gives_throw (isReported_docs _)
        · refine gives_pure ⟨fun s hs => ?_, h.args⟩
          obtain rfl := Option.some.inj hs
          exact onOneLine_relaxedChars body
      | arguments =>
        dsimp only
        split
        · exact gives_throw (isReported_docs _)
        · refine (gives_check (fun _ => documents_of_readArguments) isReported_docs).bind
            fun args hargs => ?_
          refine gives_pure ⟨h.summary, fun args' hargs' => ?_⟩
          obtain rfl := Option.some.inj hargs'
          exact hargs
      | examples =>
        dsimp only
        split
        · exact gives_throw (isReported_docs _)
        · exact gives_pure ⟨h.summary, h.args⟩

/-- The parts of a documentation are put together, if there is a description. -/
theorem gives_assemble {usage : Usage} {sections : Sections} (hu : usage.IsSound)
    (h : sections.Fit usage) : Gives (assemble usage sections) CommandDocs.IsConsistent := by
  rw [assemble]
  split
  · exact gives_throw (isReported_docs _)
  · next hdesc =>
    have hargs : ∀ args, argsOf usage sections = .ok args → Documents usage args := by
      intro args hargs
      rw [argsOf] at hargs
      split at hargs
      · next found hfound =>
        obtain rfl := Except.ok.inj hargs
        exact h.args _ hfound
      · exact documents_of_readArguments hargs
    refine (gives_check hargs isReported_docs).bind fun args hargs => gives_pure ?_
    exact ⟨hu, Bool.eq_false_iff.2 hdesc, h.summary, hargs⟩

/-- **Reading is closed.** -/
theorem gives_read (text : Option String) : Gives (read text) CommandDocs.IsConsistent := by
  cases hp : paragraphsOf (text.getD "") with
  | nil =>
    unfold read
    rw [hp]
    exact gives_throw (isReported_docs _)
  | cons first more =>
    rw [read_of_paragraphs hp]
    refine (gives_readUsage first).bind fun usage hu => ?_
    refine (gives_foldlM (fun _ paragraph h => gives_readSection h paragraph) more
      (sections_fit_none usage)).bind fun sections h => gives_assemble hu h

/-! ## Paragraphs -/

/-- **A text has a paragraph unless it is blank.** -/
theorem paragraphsOf_eq_nil_iff (text : String) :
    paragraphsOf text = [] ↔ allBlank text.toList = true := by
  rw [paragraphsOf, List.map_eq_nil_iff, lineGroups_eq_nil_iff, all_allBlank_splitLines,
    allBlank_cleaned]

/-- **A paragraph has a first line**, blanks at its ends apart. -/
theorem splitLines_trim_ne_nil {text : String} {p : List Char} (hp : p ∈ paragraphsOf text) :
    splitLines (trim p) ≠ [] := by
  obtain ⟨ls, hls, rfl⟩ := List.mem_map.1 hp
  obtain ⟨hne, hlines⟩ := lineGroups_spec ls hls
  obtain ⟨l, hl⟩ := List.exists_mem_of_ne_nil ls hne
  intro hnil
  have hall := all_allBlank_splitLines (trim (verbatim ls))
  rw [hnil, allBlank_trim, allBlank_verbatim] at hall
  exact absurd (List.all_eq_true.1 hall.symm l hl) (by rw [hlines l hl]; exact Bool.false_ne_true)

/-! ## The law -/

/-- **Every text is documentation that is consistent, or is refused as documentation.**  It has a
first paragraph unless it is blank, and each of its paragraphs has a first line. -/
theorem ofText?_closed (text : Option String) :
    ((∃ docs, ofText? text = .ok docs ∧ docs.IsConsistent) ∨
      ∃ e, ofText? text = .error e ∧
        (e.kind = "DocumentationError" ∨ e.kind = "UsageSyntaxError")) ∧
    (paragraphsOf (text.getD "") = [] ↔ allBlank (text.getD "").toList = true) ∧
    ∀ p ∈ paragraphsOf (text.getD ""), splitLines (trim p) ≠ [] := by
  refine ⟨?_, paragraphsOf_eq_nil_iff _, fun p => splitLines_trim_ne_nil⟩
  rw [ofText?, result]
  obtain ⟨docs, log, h, hdocs⟩ | ⟨e, log, h, he⟩ := gives_read text []
  · rw [EStateM.run, h]
    exact .inl ⟨docs, rfl, hdocs⟩
  · rw [EStateM.run, h]
    exact .inr ⟨e, rfl, he⟩

/-- The documentation of `run` is read, and a text without a usage is refused. -/
theorem ofText?_closed_run :
    (∃ docs, ofText? (some "`run [x]` Run.\n\n# Arguments\nx: The x.") = .ok docs ∧
      docs.usage.ids = ["run"] ∧ docs.IsConsistent) ∧
    (∃ e, ofText? (some "Run.") = .error e ∧
      (e.kind = "DocumentationError" ∨ e.kind = "UsageSyntaxError")) ∧
    "Usage\n".toList ∈ paragraphsOf "`run` Run.\n \n  Usage" ∧
      splitLines (trim "Usage\n".toList) ≠ [] := by
  refine ⟨?_, ?_, by decide +kernel,
    (ofText?_closed (some "`run` Run.\n \n  Usage")).2.2 _ (by decide +kernel)⟩
  · have hids : (ofText? (some "`run [x]` Run.\n\n# Arguments\nx: The x.")).toOption.map
        (·.usage.ids) = some ["run"] := by decide +kernel
    obtain ⟨docs, h, hdocs⟩ | ⟨e, h, -⟩ :=
      (ofText?_closed (some "`run [x]` Run.\n\n# Arguments\nx: The x.")).1
    · rw [h] at hids
      exact ⟨docs, h, Option.some.inj hids, hdocs⟩
    · rw [h] at hids
      cases hids
  · have hrefused : (ofText? (some "Run.")).toOption.isNone = true := by decide +kernel
    obtain ⟨docs, h, -⟩ | ⟨e, h, he⟩ := (ofText?_closed (some "Run.")).1
    · rw [h] at hrefused
      cases hrefused
    · exact ⟨e, h, he⟩

end Docs

end CommandSpec
