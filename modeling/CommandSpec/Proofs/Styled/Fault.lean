import CommandSpec.Fold.Plain
import CommandSpec.Styled.Fault

/-!
# Proofs/Styled/Fault — the styled message of a fault says what the plain one says

The two folders of messages differ in how they write a name: the plain one sets it between quotes,
the styled one shows it as a datum is shown.  A styled text moreover drops the characters that move
the cursor.  For a fault whose names are shown as they are (`Fault.PlainlyNamed`) nothing is dropped
(`fits_quoted`, `PlainlyNamed.fits_notice`), each leaf says the same, and so does each nesting.
-/

namespace CommandSpec

namespace StyledText

variable {s t : String}

/-! ## Texts that a styled text holds as they are -/

/-- Whether no character of a text would be dropped. -/
def Fits (s : String) : Prop := ∀ c ∈ s.toList, isCursorControl c = false

instance (s : String) : Decidable (Fits s) := List.decidableBAll _ s.toList

theorem fits_append : Fits (s ++ t) ↔ Fits s ∧ Fits t := by
  simp only [Fits, String.toList_append, List.forall_mem_append]

theorem Fits.append (hs : Fits s) (ht : Fits t) : Fits (s ++ t) := fits_append.mpr ⟨hs, ht⟩

theorem fits_intercalate {sep : String} {parts : List String} (hsep : Fits sep)
    (hparts : ∀ p ∈ parts, Fits p) : Fits (sep.intercalate parts) := by
  induction parts with
  | nil => exact fun _ hc => nomatch hc
  | cons p parts ih =>
    cases parts with
    | nil => exact hparts p List.mem_cons_self
    | cons q parts =>
      rw [String.intercalate_cons_cons, fits_append, fits_append]
      exact ⟨⟨hparts p List.mem_cons_self, hsep⟩,
        ih fun r hr => hparts r (List.mem_cons_of_mem p hr)⟩

/-- A text that fits is held as it is. -/
theorem plain_of (style : String) (h : Fits s) : (of style s).plain = s := by
  have hall : s.toList.filter (!isCursorControl ·) = s.toList :=
    List.filter_eq_self.mpr fun c hc => by rw [h c hc]; rfl
  rw [of, hall, String.ofList_toList]

theorem plain_foldl_intersperse (sep : StyledText) (parts : List StyledText) (t : StyledText) :
    ((parts.intersperse sep).foldl append t).plain =
      t.plain ++ sep.plain.intercalate (parts.map plain) := by
  induction parts generalizing t with
  | nil => exact String.append_empty.symm
  | cons p parts ih =>
    cases parts with
    | nil => rw [List.map_singleton, String.intercalate_singleton]; rfl
    | cons q parts =>
      rw [List.intersperse_cons_cons, List.foldl_cons, List.foldl_cons, ih, List.map_cons,
        List.map_cons, List.map_cons, String.intercalate_cons_cons, plain_append, plain_append]
      simp only [String.append_assoc]

theorem plain_join {sep : StyledText} (h : sep.plain ≠ "") (parts : List StyledText) :
    (join sep parts).plain = sep.plain.intercalate (parts.map plain) := by
  rw [join, if_neg h, plain_foldl_intersperse, String.empty_append]

end StyledText

namespace Text

open StyledText

theorem digitChar_isCursorControl (n : Nat) : isCursorControl (Nat.digitChar (n % 16)) = false := by
  have all : ∀ m < 16, isCursorControl (Nat.digitChar m) = false := by decide
  exact all _ (Nat.mod_lt n (by decide))

theorem hexDigits_isCursorControl (width n : Nat) :
    ∀ c ∈ hexDigits width n, isCursorControl c = false := by
  induction width generalizing n with
  | zero => exact fun _ hc => nomatch hc
  | succ width ih =>
    rw [hexDigits, List.forall_mem_append, List.forall_mem_singleton]
    exact ⟨ih (n / 16), digitChar_isCursorControl n⟩

theorem numericEscape_isCursorControl (n : Nat) :
    ∀ c ∈ numericEscape n, isCursorControl c = false := by
  have escape {letter : Char} (width : Nat) (h : isCursorControl letter = false) :
      ∀ c ∈ '\\' :: letter :: hexDigits width n, isCursorControl c = false := by
    rw [List.forall_mem_cons, List.forall_mem_cons]
    exact ⟨by decide, h, hexDigits_isCursorControl width n⟩
  rw [numericEscape]
  split
  · exact escape 2 (by decide)
  split
  · exact escape 4 (by decide)
  · exact escape 8 (by decide)

theorem isCursorControl_of_isPrintable {c : Char} (h : isPrintable c = true) :
    isCursorControl c = false := by
  rw [isPrintable] at h
  simp only [isCursorControl, Bool.or_eq_false_iff, decide_eq_false_iff_not]
  split at h
  · have hspace : 0x20 ≤ c.toNat := by simpa using (Bool.and_eq_true_iff.mp h).1
    omega
  · omega

theorem quoteChar_isCursorControl {q : Char} (hq : isCursorControl q = false) (c : Char) :
    ∀ d ∈ quoteChar q c, isCursorControl d = false := by
  have escape {letter : Char} (h : isCursorControl letter = false) :
      ∀ d ∈ ['\\', letter], isCursorControl d = false := by
    rw [List.forall_mem_cons, List.forall_mem_singleton]
    exact ⟨by decide, h⟩
  rw [quoteChar]
  split
  · next h =>
    obtain rfl | rfl : c = q ∨ c = '\\' := by simpa using h
    · exact escape hq
    · exact escape (by decide)
  split
  · exact escape (by decide)
  split
  · exact escape (by decide)
  split
  · exact escape (by decide)
  split
  · next h => exact List.forall_mem_singleton.mpr (isCursorControl_of_isPrintable h)
  · exact numericEscape_isCursorControl c.toNat

/-- **A text between quotes** has no character that moves the cursor: each is escaped. -/
theorem fits_quoted (s : String) : Fits (quoted s) := by
  have hq : isCursorControl (quoteFor s.toList) = false := by
    rw [quoteFor]
    split <;> decide
  rw [Fits, quoted, String.toList_ofList, quotedChars, List.cons_append, List.forall_mem_cons,
    List.forall_mem_append, List.forall_mem_singleton]
  refine ⟨hq, fun d hd => ?_, hq⟩
  obtain ⟨c, -, hd⟩ := List.mem_flatMap.mp hd
  exact quoteChar_isCursorControl hq c d hd

/-- **A name that is shown as it is**, between single quotes. -/
def IsShownAsIs (s : String) : Prop := quoted s = "'" ++ s ++ "'"

instance (s : String) : Decidable (IsShownAsIs s) := inferInstanceAs (Decidable (_ = _))

theorem IsShownAsIs.fits {s : String} (h : IsShownAsIs s) : Fits s := by
  have hquoted := fits_quoted s
  rw [h, fits_append, fits_append] at hquoted
  exact hquoted.1.2

end Text

open StyledText

/-! ## Faults with plain names -/

namespace FaultPart

variable {p : FaultPart}

/-- What a user has typed. -/
def IsText (p : FaultPart) : Prop := ∃ s : String, p = s

/-- A name that is shown as it is. -/
def IsName (p : FaultPart) : Prop := ∃ s : String, p = s ∧ Text.IsShownAsIs s

theorem isText_text (s : String) : (s : FaultPart).IsText := ⟨s, rfl⟩

theorem IsName.isText (h : p.IsName) : p.IsText :=
  let ⟨s, hp, _⟩ := h
  ⟨s, hp⟩

theorem IsText.fits_shown (h : p.IsText) : Fits p.shown := by
  obtain ⟨s, rfl⟩ := h
  rw [shown_text]
  exact Text.fits_quoted s

theorem IsName.shown_eq (h : p.IsName) : p.shown = "'" ++ p.plain ++ "'" := by
  obtain ⟨s, rfl, hs⟩ := h
  rw [shown_text, plain_text, hs]

end FaultPart

namespace Fault

variable {e : Fault}

/-- **A fault whose names are shown as they are.**  What the user has typed is any text; an error
from elsewhere has no character in its text that moves the cursor. -/
def PlainlyNamed : Fault → Prop
  | .noMatch given available =>
    given.IsText ∧
      ∃ names : List String, available = names.map .text ∧ ∀ n ∈ names, Text.IsShownAsIs n
  | .ambiguousId candidates given => (∀ n ∈ candidates, Text.IsShownAsIs n) ∧ given.IsText
  | .incompletePath available => ∀ n ∈ available, Text.IsShownAsIs n
  | .badPathId inner => inner.PlainlyNamed
  | .trailingPath extra => extra.IsText
  | .noInput => True
  | .badId inner => inner.PlainlyNamed
  | .missingRequired cmd arg => cmd.IsName ∧ arg.IsName
  | .badConvert cmd arg inner => cmd.IsName ∧ arg.IsName ∧ inner.PlainlyNamed
  | .trailingArgument cmd extra => cmd.IsName ∧ extra.IsText
  | .subcommand cmd inner => cmd.IsName ∧ inner.PlainlyNamed
  | e => Fits e.notice

theorem fits_kind {family : FaultFamily} (h : e.family? = some family) : Fits e.kind := by
  cases e with
  | general family _ => cases family <;> (simp only [kind, FaultFamily.kind]; decide)
  | foreign | datum => cases h
  | _ => rw [kind]; decide

theorem fits_notice_of_message {family : FaultFamily} (h : e.family? = some family)
    (hmessage : Fits e.message) : Fits e.notice := by
  rw [notice]
  split
  · exact fits_kind h
  · exact hmessage

/-- **The notice of a fault with plain names is held as it is**, whatever the fault is about. -/
theorem PlainlyNamed.fits_notice (h : e.PlainlyNamed) : Fits e.notice := by
  have names {l : List String} (h : ∀ n ∈ l, Text.IsShownAsIs n) : Fits (", ".intercalate l) :=
    fits_intercalate (by decide) fun n hn => (h n hn).fits
  -- A message is made of phrases, in which nothing is dropped, and of its fault's parts in order.
  cases e with
  | noMatch =>
    rw [PlainlyNamed] at h
    apply fits_notice_of_message rfl
    exact .append (by decide) h.1.fits_shown
  | ambiguousId =>
    rw [PlainlyNamed] at h
    apply fits_notice_of_message rfl
    exact .append (.append (.append (by decide) h.2.fits_shown) (by decide)) (names h.1)
  | incompletePath =>
    rw [PlainlyNamed] at h
    apply fits_notice_of_message rfl
    exact .append (by decide) (names h)
  | trailingPath =>
    rw [PlainlyNamed] at h
    apply fits_notice_of_message rfl
    exact .append (by decide) h.fits_shown
  | missingRequired =>
    rw [PlainlyNamed] at h
    apply fits_notice_of_message rfl
    exact .append (.append (.append (by decide) h.2.isText.fits_shown) (by decide))
      h.1.isText.fits_shown
  | badConvert =>
    rw [PlainlyNamed] at h
    apply fits_notice_of_message rfl
    exact .append (.append (.append (.append (by decide) h.2.1.isText.fits_shown) (by decide))
      h.1.isText.fits_shown) (by decide)
  | trailingArgument =>
    rw [PlainlyNamed] at h
    apply fits_notice_of_message rfl
    exact .append (.append (.append (by decide) h.2.fits_shown) (by decide))
      h.1.isText.fits_shown
  | subcommand =>
    rw [PlainlyNamed] at h
    apply fits_notice_of_message rfl
    exact .append (by decide) h.1.isText.fits_shown
  | badPathId =>
    exact fits_notice_of_message rfl (by decide : Fits "failed to parse path ID")
  | noInput =>
    exact fits_notice_of_message rfl (by decide : Fits "no values in command parse input")
  | badId =>
    exact fits_notice_of_message rfl (by decide : Fits "failed to parse command ID")
  | _ => simpa only [PlainlyNamed] using h

end Fault

namespace Styled

variable {p : FaultPart} {names : List String}

/-! ## The leaves -/

theorem plain_assemble (t : StyledText) (ts : List StyledText) :
    (assemble (t :: ts)).plain = ts.foldl (fun s u => s ++ u.plain) t.plain := by
  have hstart : (StyledText.append ⟨"", "", []⟩ t).plain = t.plain := String.empty_append
  rw [assemble, List.foldl_cons, ← hstart]
  exact (List.foldl_hom plain fun _ _ => rfl).symm

theorem plain_unstyled {s : String} (h : Fits s) : (unstyled s).plain = s := plain_of "" h

theorem plain_faultPart (look : Look) (key : String) (h : p.IsText) :
    (faultPart look key p).plain = p.shown := plain_of _ h.fits_shown

/-- A name is shown as the plain folder sets it between quotes. -/
theorem plain_faultPart_name (look : Look) (key : String) (h : p.IsName) :
    (faultPart look key p).plain = "'" ++ p.plain ++ "'" := by
  rw [plain_faultPart look key h.isText, h.shown_eq]

theorem plain_optionList (look : Look) (h : ∀ n ∈ names, Text.IsShownAsIs n) :
    (optionList look (names.map .text)).plain = Plain.options names := by
  have hparts : (names.map Datum.text).map (fun n => (faultPart look "option" (.datum n)).plain) =
      names.map fun n => "'" ++ n ++ "'" := by
    rw [List.map_map]
    exact List.map_congr_left fun n hn => plain_faultPart_name look "option" ⟨n, rfl, h n hn⟩
  rw [optionList, plain_join (by decide), List.map_map, Plain.options]
  exact congrArg _ hparts

/-- What is suggested is one of the names that there are. -/
theorem suggested_subset (suggest : Bool) (given : String) (names : List String) :
    suggested suggest given (names.map .text) ⊆ names := by
  intro n hn
  rw [suggested, FaultPart.meant_text] at hn
  split at hn
  · obtain ⟨r, hr, rfl⟩ := List.mem_map.mp hn
    obtain ⟨m, hm, rfl⟩ := List.mem_map.mp (List.mem_mergeSort.mp (List.mem_filter.mp hr).1)
    exact hm
  · cases hn

section Leaves

variable (look : Look) (suggest : Bool) {cmd arg given extra : FaultPart}

theorem plain_noIdMatch {available : List Datum}
    (h : (Fault.noMatch given available).PlainlyNamed) :
    ((faults look suggest).noIdMatch given available).plain =
      (Plain.faults suggest).noIdMatch given available := by
  rw [Fault.PlainlyNamed] at h
  obtain ⟨⟨token, rfl⟩, names, rfl, hnames⟩ := h
  have hmeant := plain_optionList look fun n hn =>
    hnames n (suggested_subset suggest token names hn)
  have hmessage : (assemble [unstyled "Not sure what you mean by ", faultPart look "token" token,
      unstyled "."]).plain = "Not sure what you mean by " ++ FaultPart.shown token ++ "." := by
    rw [plain_assemble, List.foldl_cons, List.foldl_cons, List.foldl_nil,
      plain_faultPart look "token" ⟨token, rfl⟩]
    rfl
  have hplain : (names.map Datum.text).map Datum.plain = names := by
    rw [List.map_map]
    exact List.map_id names
  show (noIdMatch look suggest token (names.map .text)).plain =
    Plain.noIdMatch suggest token (names.map .text)
  rw [noIdMatch, Plain.noIdMatch]
  split
  · rw [plain_assemble, List.foldl_cons, List.foldl_cons, List.foldl_nil, hmessage, hmeant]
    rfl
  split
  · rw [plain_assemble, List.foldl_cons, List.foldl_cons, List.foldl_nil, hmessage,
      plain_optionList look hnames, hplain]
    rfl
  · exact hmessage

theorem plain_ambiguousId {candidates : List String}
    (h : (Fault.ambiguousId candidates given).PlainlyNamed) :
    ((faults look suggest).ambiguousId candidates given).plain =
      (Plain.faults suggest).ambiguousId candidates given := by
  rw [Fault.PlainlyNamed] at h
  simp only [faults, Plain.faults, plain_assemble, List.foldl_cons, List.foldl_nil,
    plain_faultPart look "token" h.2, plain_optionList look h.1]
  rfl

theorem plain_incompletePath {available : List String} (h : ∀ n ∈ available, Text.IsShownAsIs n) :
    ((faults look suggest).incompletePath available).plain =
      (Plain.faults suggest).incompletePath available := by
  simp only [faults, Plain.faults, plain_assemble, List.foldl_cons, List.foldl_nil,
    plain_optionList look h]
  rfl

theorem plain_trailingPath (h : extra.IsText) :
    ((faults look suggest).trailingPath extra).plain =
      (Plain.faults suggest).trailingPath extra := by
  simp only [faults, Plain.faults, plain_assemble, List.foldl_cons, List.foldl_nil,
    plain_faultPart look "token" h]
  rfl

/- A quote stands at the end of a phrase of the plain folder, and at the start of a name of the
styled one: what is left of the leaves below is to move it over. -/

theorem plain_missingRequired (hcmd : cmd.IsName) (harg : arg.IsName) :
    ((faults look suggest).missingRequired cmd arg).plain =
      (Plain.faults suggest).missingRequired cmd arg := by
  simp only [faults, Plain.faults, plain_assemble, List.foldl_cons, List.foldl_nil,
    plain_faultPart_name look "command" hcmd, plain_faultPart_name look "command" harg]
  rw [plain_unstyled (by decide), plain_unstyled (by decide), ← String.toList_inj]
  simp

theorem plain_badConvert (hcmd : cmd.IsName) (harg : arg.IsName) (inner : StyledText) :
    ((faults look suggest).badConvert cmd arg inner).plain =
      (Plain.faults suggest).badConvert cmd arg inner.plain := by
  simp only [faults, Plain.faults, plain_assemble, List.foldl_cons, List.foldl_nil,
    plain_faultPart_name look "command" hcmd, plain_faultPart_name look "command" harg]
  rw [plain_unstyled (by decide), plain_unstyled (by decide), plain_unstyled (by decide),
    ← String.toList_inj]
  simp

theorem plain_trailing (hcmd : cmd.IsName) (hextra : extra.IsText) :
    ((faults look suggest).trailing cmd extra).plain =
      (Plain.faults suggest).trailing cmd extra := by
  simp only [faults, Plain.faults, plain_assemble, List.foldl_cons, List.foldl_nil,
    plain_faultPart look "token" hextra, plain_faultPart_name look "command" hcmd]
  rw [plain_unstyled (by decide), plain_unstyled (by decide), ← String.toList_inj]
  simp

theorem plain_subcommand (hcmd : cmd.IsName) (inner : StyledText) :
    ((faults look suggest).subcommand cmd inner).plain =
      (Plain.faults suggest).subcommand cmd inner.plain := by
  simp only [faults, Plain.faults, plain_assemble, List.foldl_cons, List.foldl_nil,
    plain_faultPart_name look "command" hcmd]
  rw [plain_unstyled (by decide), plain_unstyled (by decide), ← String.toList_inj]
  simp

theorem plain_other {e : Fault} (h : e.PlainlyNamed) :
    ((faults look suggest).other e).plain = (Plain.faults suggest).other e :=
  plain_unstyled h.fits_notice

end Leaves

/-! ## Nesting -/

/-- An identifier's fault in place of the one that wraps it. -/
theorem plain_foldId (look : Look) (suggest : Bool) {e : Fault} (h : e.PlainlyNamed) :
    ((faults look suggest).foldId e).plain = (Plain.faults suggest).foldId e := by
  cases e with
  | noMatch => exact plain_noIdMatch look suggest h
  | ambiguousId => exact plain_ambiguousId look suggest h
  | _ => exact plain_other look suggest h

/-- **Each leaf says the same, and so does each nesting.** -/
theorem plain_fold (look : Look) (suggest : Bool) {e : Fault} (h : e.PlainlyNamed) :
    ((faults look suggest).fold e).plain = (Plain.faults suggest).fold e := by
  induction e with
  | noMatch => exact plain_noIdMatch look suggest h
  | ambiguousId => exact plain_ambiguousId look suggest h
  | noInput => rfl
  | incompletePath =>
    rw [Fault.PlainlyNamed] at h
    exact plain_incompletePath look suggest h
  | trailingPath =>
    rw [Fault.PlainlyNamed] at h
    exact plain_trailingPath look suggest h
  | badPathId | badId =>
    rw [Fault.PlainlyNamed] at h
    exact plain_foldId look suggest h
  | missingRequired =>
    rw [Fault.PlainlyNamed] at h
    exact plain_missingRequired look suggest h.1 h.2
  | trailingArgument =>
    rw [Fault.PlainlyNamed] at h
    exact plain_trailing look suggest h.1 h.2
  | badConvert _ _ inner ih =>
    rw [Fault.PlainlyNamed] at h
    rw [FaultFolder.fold, FaultFolder.fold, plain_badConvert look suggest h.1 h.2.1, ih h.2.2]
  | subcommand _ inner ih =>
    rw [Fault.PlainlyNamed] at h
    rw [FaultFolder.fold, FaultFolder.fold, plain_subcommand look suggest h.1]
    split
    · rw [ih h.2]
    · rw [plain_other look suggest h.2]
  | _ => exact plain_other look suggest h

end Styled

namespace Fault

variable {e : Fault}

/-! ## Faults that are not refused -/

/-- **A fault of texts**: what the user has typed, and the names in it, are texts. -/
def OfTexts : Fault → Prop
  | .noMatch given available => given.IsText ∧ ∃ names : List String, available = names.map .text
  | .ambiguousId _ given => given.IsText
  | .badPathId inner => inner.OfTexts
  | .trailingPath extra => extra.IsText
  | .badId inner => inner.OfTexts
  | .missingRequired cmd arg => cmd.IsText ∧ arg.IsText
  | .badConvert cmd arg inner => cmd.IsText ∧ arg.IsText ∧ inner.OfTexts
  | .trailingArgument cmd extra => cmd.IsText ∧ extra.IsText
  | .subcommand cmd inner => cmd.IsText ∧ inner.OfTexts
  | _ => True

theorem PlainlyNamed.ofTexts (h : e.PlainlyNamed) : e.OfTexts := by
  induction e with
  | noMatch =>
    rw [PlainlyNamed] at h
    exact ⟨h.1, h.2.imp fun _ => And.left⟩
  | ambiguousId =>
    rw [PlainlyNamed] at h
    exact h.2
  | badPathId _ ih | badId _ ih =>
    rw [PlainlyNamed] at h
    exact ih h
  | trailingPath =>
    rw [PlainlyNamed] at h
    exact h
  | missingRequired =>
    rw [PlainlyNamed] at h
    exact ⟨h.1.isText, h.2.isText⟩
  | badConvert _ _ _ ih =>
    rw [PlainlyNamed] at h
    exact ⟨h.1.isText, h.2.1.isText, ih h.2.2⟩
  | trailingArgument =>
    rw [PlainlyNamed] at h
    exact ⟨h.1.isText, h.2⟩
  | subcommand _ _ ih =>
    rw [PlainlyNamed] at h
    exact ⟨h.1.isText, ih h.2⟩
  | _ => trivial

theorem OfTexts.foldId_refusals (h : e.OfTexts) : refusals.foldId e = none := by
  cases e with
  | noMatch given available =>
    obtain ⟨⟨token, rfl⟩, names, rfl⟩ := h
    simp only [FaultFolder.foldId, refusals, FaultPart.meant_text]
  | _ => rfl

/-- **A fault of texts can be folded**, also where names are suggested. -/
theorem OfTexts.refusal?_eq_none (h : e.OfTexts) : e.refusal? = none := by
  induction e with
  | noMatch => exact h.foldId_refusals
  | badPathId | badId =>
    rw [OfTexts] at h
    exact h.foldId_refusals
  | badConvert _ _ inner ih =>
    rw [OfTexts] at h
    exact ih h.2.2
  | subcommand _ inner ih =>
    rw [OfTexts] at h
    rw [refusal?, FaultFolder.fold]
    show (if inner.isCommandFault then refusals.fold inner else none) = none
    split
    · exact ih h.2
    · rfl
  | _ => rfl

theorem OfTexts.foldable (h : e.OfTexts) (suggest : Bool) : e.foldable suggest = .ok e := by
  rw [Fault.foldable, h.refusal?_eq_none]

theorem PlainlyNamed.foldable (h : e.PlainlyNamed) (suggest : Bool) :
    e.foldable suggest = .ok e := h.ofTexts.foldable suggest

end Fault

/-- **The styled message of a fault says what the plain one says**, whatever the host and the
options, and neither folder refuses it. -/
theorem Styled.plain_message (host : Host) (o : Styled.FaultOptions) {e : Fault}
    (h : e.PlainlyNamed) :
    e.foldable o.suggest = .ok e ∧
      (Styled.message host o e).plain = (Plain.faults o.suggest).fold e :=
  ⟨h.foldable o.suggest, Styled.plain_fold (Styled.faultLook host o) o.suggest h⟩

namespace Styled.Sample

/-- A token that rings the bell, in a nest of faults. -/
def nested : Fault :=
  .subcommand "git" <| .badConvert "add" "file" <| .badId <|
    .noMatch "ad\u0007" [.text "add", .text "rm"]

theorem plainlyNamed_nested : nested.PlainlyNamed := by
  have hgit : Text.IsShownAsIs "git" := by decide
  have hadd : Text.IsShownAsIs "add" := by decide
  have hfile : Text.IsShownAsIs "file" := by decide
  have hrm : Text.IsShownAsIs "rm" := by decide
  simp only [nested, Fault.PlainlyNamed]
  refine ⟨⟨"git", rfl, hgit⟩, ⟨"add", rfl, hadd⟩, ⟨"file", rfl, hfile⟩, ⟨_, rfl⟩, ["add", "rm"],
    rfl, ?_⟩
  rw [List.forall_mem_cons, List.forall_mem_singleton]
  exact ⟨hadd, hrm⟩

theorem plain_message_nested :
    nested.PlainlyNamed ∧ nested.foldable true = .ok nested ∧
      (message Host.plain ⟨true, false, true⟩ nested).plain = (Plain.faults true).fold nested ∧
      (message Host.plain ⟨false, false, false⟩ nested).plain =
        "Subcommand 'git' failed: Couldn't parse argument 'file' of command 'add': " ++
          "Not sure what you mean by 'ad\\x07'.  Available options are: 'add', 'rm'" :=
  have hcoloured := plain_message Host.plain ⟨true, false, true⟩ plainlyNamed_nested
  have huncoloured := plain_message Host.plain ⟨false, false, false⟩ plainlyNamed_nested
  ⟨plainlyNamed_nested, hcoloured.1, hcoloured.2, huncoloured.2.trans (by decide)⟩

end Styled.Sample

end CommandSpec
