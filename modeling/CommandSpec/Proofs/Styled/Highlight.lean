import CommandSpec.Proofs.Styled.Marks

/-!
# Proofs/Styled/Highlight — what a message mentions is highlighted, and nothing else

A message **mentions** what the user has typed, the names of commands and arguments, and the names
that are listed or suggested, the outer fault's before those of the fault that it wraps
(`Fault.mentions`).  Each leaf marks its own mentions in this order, and a wrapped message brings
those that it carries already, wherever it is put (`marks_fold`).
-/

namespace CommandSpec

open StyledText

/-! ## Mentions -/

/-- What a message mentions, with the key of its style. -/
structure Mention where
  key : String
  part : FaultPart

namespace Mention

/-- What the user has typed. -/
def token (p : FaultPart) : Mention := ⟨"token", p⟩

/-- The name of a command or of an argument. -/
def command (p : FaultPart) : Mention := ⟨"command", p⟩

/-- A name that is listed or suggested. -/
def option (name : Datum) : Mention := ⟨"option", .datum name⟩

end Mention

open Mention in
/-- **What the message of a fault mentions**, in order.  A fault that stands where its family does
not belong is told as an error from elsewhere, which mentions nothing. -/
def Fault.mentions (suggest : Bool) : Fault → List Mention
  | .noMatch given available =>
    let meant := suggested suggest given available
    token given :: (if meant.isEmpty then available else meant.map .text).map option
  | .ambiguousId candidates given => token given :: (candidates.map .text).map option
  | .incompletePath available => (available.map .text).map option
  | .badPathId inner | .badId inner => if inner.isIdFault then inner.mentions suggest else []
  | .trailingPath extra => [token extra]
  | .missingRequired cmd arg => [command arg, command cmd]
  | .badConvert cmd arg inner => command arg :: command cmd :: inner.mentions suggest
  | .trailingArgument cmd extra => [token extra, command cmd]
  | .subcommand cmd inner =>
    command cmd :: if inner.isCommandFault then inner.mentions suggest else []
  | _ => []

namespace Styled

variable {look : Look} {suggest : Bool} {p cmd arg given extra : FaultPart}

/-- The mark of a mention: the style of its key, and how it is shown. -/
def mark (look : Look) (m : Mention) : Mark := (look.style m.key, m.part.shown)

/-- **A look that highlights**: the keys of mentions have a style each. -/
structure Highlights (look : Look) : Prop where
  token : look.style "token" ≠ ""
  command : look.style "command" ≠ ""
  option : look.style "option" ≠ ""

theorem shown_ne_empty (h : p.IsText) : p.shown ≠ "" := by
  obtain ⟨s, rfl⟩ := h
  rw [FaultPart.shown_text, Text.quoted, ← String.toList_inj.ne, String.toList_ofList]
  exact List.cons_ne_nil _ _

theorem brings_mention (m : Mention) (hkey : look.style m.key ≠ "") (h : m.part.IsText) :
    (faultPart look m.key m.part).Brings [mark look m] :=
  brings_of hkey (shown_ne_empty h) h.fits_shown

section Leaves

variable (hlook : Highlights look)
include hlook

theorem brings_token (h : p.IsText) : (faultPart look "token" p).Brings [mark look (.token p)] :=
  brings_mention (.token p) hlook.token h

theorem brings_command (h : p.IsText) :
    (faultPart look "command" p).Brings [mark look (.command p)] :=
  brings_mention (.command p) hlook.command h

/-! ## The leaves -/

theorem marks_optionList (names : List String) : (optionList look (names.map .text)).Marks
    (((names.map .text).map .option).map (mark look)) := by
  have hparts : List.Forall₂ Brings
      ((names.map Datum.text).map fun n => faultPart look "option" (.datum n))
      ((names.map Datum.text).map fun n => [mark look (.option n)]) := by
    rw [List.map_map, List.map_map, List.forall₂_map_left_iff, List.forall₂_map_right_iff,
      List.forall₂_same]
    exact fun n _ => brings_mention (.option (.text n)) hlook.option ⟨n, rfl⟩
  have hmarks := marks_join (marks_unstyled ", ") hparts
  rw [← List.flatMap_def, ← List.map_eq_flatMap] at hmarks
  rwa [List.map_map]

theorem marks_noIdMatch {available : List Datum} (h : (Fault.noMatch given available).OfTexts) :
    ((faults look suggest).noIdMatch given available).Marks
      (((Fault.noMatch given available).mentions suggest).map (mark look)) := by
  obtain ⟨hgiven, names, rfl⟩ := h
  have hmessage : (assemble [unstyled "Not sure what you mean by ", faultPart look "token" given,
      unstyled "."]).Marks [mark look (.token given)] :=
    marks_assemble [[], [_], []] <| .cons (brings_unstyled _) <|
      .cons (brings_token hlook hgiven) <| .cons (brings_unstyled _) .nil
  have hlisted (phrase : String) (listed : List String) :=
    marks_assemble_concat _ (.cons hmessage.brings <| .cons (brings_unstyled phrase) .nil)
      (marks_optionList hlook listed).brings
  show (noIdMatch look suggest given (names.map .text)).Marks _
  rw [noIdMatch, Fault.mentions, List.map_cons]
  by_cases hmeant : suggested suggest given (names.map .text) = []
  · simp only [hmeant, List.isEmpty_nil, Bool.not_true, Bool.false_eq_true, if_false, if_true]
    cases names with
    | nil => exact hmessage
    | cons n ns => exact hlisted "  Available options are: " (n :: ns)
  · rw [if_pos (by simpa using hmeant), if_neg (by simpa using hmeant)]
    exact hlisted "  Did you mean: " _

theorem marks_ambiguousId (candidates : List String) (h : given.IsText) :
    ((faults look suggest).ambiguousId candidates given).Marks
      (((Fault.ambiguousId candidates given).mentions suggest).map (mark look)) :=
  marks_assemble_concat [[], [_], []]
    (.cons (brings_unstyled _) <| .cons (brings_token hlook h) <| .cons (brings_unstyled _) .nil)
    (marks_optionList hlook candidates).brings

theorem marks_incompletePath (available : List String) :
    ((faults look suggest).incompletePath available).Marks
      (((Fault.incompletePath available).mentions suggest).map (mark look)) :=
  marks_assemble_concat [[]] (.cons (brings_unstyled _) .nil)
    (marks_optionList hlook available).brings

theorem marks_trailingPath (h : extra.IsText) :
    ((faults look suggest).trailingPath extra).Marks [mark look (.token extra)] :=
  marks_assemble [[], [_]] <| .cons (brings_unstyled _) <|
    .cons (brings_token hlook h) .nil

theorem marks_missingRequired (hcmd : cmd.IsText) (harg : arg.IsText) :
    ((faults look suggest).missingRequired cmd arg).Marks
      [mark look (.command arg), mark look (.command cmd)] :=
  marks_assemble [[], [_], [], [_]] <| .cons (brings_unstyled _) <|
    .cons (brings_command hlook harg) <| .cons (brings_unstyled _) <|
      .cons (brings_command hlook hcmd) .nil

theorem marks_trailing (hcmd : cmd.IsText) (hextra : extra.IsText) :
    ((faults look suggest).trailing cmd extra).Marks
      [mark look (.token extra), mark look (.command cmd)] :=
  marks_assemble [[], [_], [], [_]] <| .cons (brings_unstyled _) <|
    .cons (brings_token hlook hextra) <| .cons (brings_unstyled _) <|
      .cons (brings_command hlook hcmd) .nil

/-! A wrapped message brings its marks behind those of the leaf. -/

variable {inner : StyledText} {ms : List Mark}

theorem marks_badConvert (hcmd : cmd.IsText) (harg : arg.IsText) (hinner : inner.Marks ms) :
    ((faults look suggest).badConvert cmd arg inner).Marks
      (mark look (.command arg) :: mark look (.command cmd) :: ms) :=
  marks_assemble_concat [[], [_], [], [_], []]
    (.cons (brings_unstyled _) <| .cons (brings_command hlook harg) <| .cons (brings_unstyled _) <|
      .cons (brings_command hlook hcmd) <| .cons (brings_unstyled _) .nil) hinner.brings

theorem marks_subcommand (hcmd : cmd.IsText) (hinner : inner.Marks ms) :
    ((faults look suggest).subcommand cmd inner).Marks (mark look (.command cmd) :: ms) :=
  marks_assemble_concat [[], [_], []]
    (.cons (brings_unstyled _) <| .cons (brings_command hlook hcmd) <|
      .cons (brings_unstyled _) .nil) hinner.brings

end Leaves

/-! ## Nesting -/

variable {e : Fault}

/-- An identifier's fault in place of the one that wraps it; any other mentions nothing there. -/
theorem marks_foldId (hlook : Highlights look) (h : e.OfTexts) :
    ((faults look suggest).foldId e).Marks
      ((if e.isIdFault then e.mentions suggest else []).map (mark look)) := by
  cases e with
  | noMatch => exact marks_noIdMatch hlook h
  | ambiguousId candidates => exact marks_ambiguousId hlook candidates h
  | general family message =>
    have hnone : (Fault.general family message).mentions suggest = [] := rfl
    rw [hnone, ite_self]
    exact marks_unstyled _
  | _ => exact marks_unstyled _

/-- **Each leaf marks its mentions, and so does each nesting.** -/
theorem marks_fold (suggest : Bool) (hlook : Highlights look) (h : e.OfTexts) :
    ((faults look suggest).fold e).Marks ((e.mentions suggest).map (mark look)) := by
  induction e with
  | noMatch => exact marks_noIdMatch hlook h
  | ambiguousId candidates => exact marks_ambiguousId hlook candidates h
  | incompletePath available => exact marks_incompletePath hlook available
  | badPathId | badId =>
    rw [Fault.OfTexts] at h
    exact marks_foldId hlook h
  | trailingPath => exact marks_trailingPath hlook h
  | missingRequired => exact marks_missingRequired hlook h.1 h.2
  | badConvert _ _ _ ih => exact marks_badConvert hlook h.1 h.2.1 (ih h.2.2)
  | trailingArgument => exact marks_trailing hlook h.1 h.2
  | subcommand _ inner ih =>
    rw [Fault.OfTexts] at h
    rw [FaultFolder.fold, Fault.mentions, List.map_cons]
    refine marks_subcommand hlook h.1 ?_
    split
    · exact ih h.2
    · exact marks_unstyled _
  | _ => exact marks_unstyled _

/-- **What a message mentions is highlighted, and nothing else**: its spans lie inside it, one
behind the other, and cover the mentions of the fault in their order, each in the style of its kind.
Such a message is never refused. -/
theorem message_highlights {host : Host} {fancy suggest : Bool} {e : Fault}
    (hlook : Highlights (faultLook host ⟨true, fancy, suggest⟩)) (h : e.OfTexts) :
    e.foldable suggest = .ok e ∧
      (message host ⟨true, fancy, suggest⟩ e).style = "" ∧
      Covers (message host ⟨true, fancy, suggest⟩ e).plain
        (message host ⟨true, fancy, suggest⟩ e).spans
        ((e.mentions suggest).map fun m =>
          ((faultLook host ⟨true, fancy, suggest⟩).style m.key, m.part.shown)) := by
  have hmarks := marks_fold suggest hlook h
  exact ⟨h.foldable suggest, hmarks.style_eq, hmarks.covers⟩

namespace Sample

theorem highlights_plain : Highlights (faultLook Host.plain ⟨true, false, true⟩) where
  token := by decide
  command := by decide
  option := by decide

theorem message_highlights_nested :
    Highlights (faultLook Host.plain ⟨true, false, true⟩) ∧ nested.OfTexts ∧
      Covers (message Host.plain ⟨true, false, true⟩ nested).plain
        (message Host.plain ⟨true, false, true⟩ nested).spans
        ((nested.mentions true).map (mark (faultLook Host.plain ⟨true, false, true⟩))) ∧
      (message Host.plain ⟨true, false, false⟩ nested).spans = [
        ⟨11, 16, "bold #36C5F0"⟩, ⟨49, 55, "bold #36C5F0"⟩, ⟨67, 72, "bold #36C5F0"⟩,
        ⟨100, 108, "bold #FFD600"⟩, ⟨134, 139, "bold #22C55E"⟩, ⟨141, 145, "bold #22C55E"⟩] :=
  have htexts := plainlyNamed_nested.ofTexts
  ⟨highlights_plain, htexts, (message_highlights highlights_plain htexts).2.2,
    by decide +kernel⟩

/-- The fault of an identifier where that of a command belongs. -/
def misplaced : Fault := .subcommand "git" (.noMatch "x" [])

/-- **The message of a fault out of place** is shown as it is: what it says of a token is not
highlighted. -/
theorem not_covers_misplaced :
    (message Host.plain ⟨true, false, true⟩ misplaced).plain =
        "Subcommand " ++ Text.quoted "git" ++ " failed: no ID match for " ++ Text.quoted "x" ∧
      ¬ Covers (message Host.plain ⟨true, false, true⟩ misplaced).plain
        (message Host.plain ⟨true, false, true⟩ misplaced).spans
        ([.command "git", .token "x"].map (mark (faultLook Host.plain ⟨true, false, true⟩))) := by
  refine ⟨by decide +kernel, fun h => ?_⟩
  have hcount := congrArg List.length h.covered
  rw [List.length_map] at hcount
  exact absurd hcount (by decide +kernel)

end Sample

end Styled

end CommandSpec
