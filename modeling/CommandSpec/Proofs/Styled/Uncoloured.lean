import CommandSpec.Proofs.Styled.Fault
import CommandSpec.Styled.Help
import Mathlib.Data.List.Forall2

/-!
# Proofs/Styled/Uncoloured — without colours the same is shown, and no style with it

`uncoloured` drops every style of a text, and so of a markup.  It commutes with each way in which
texts are put together, since the base style and the spans of a part are all that a part hands on
besides its characters (`uncoloured_append`).  So it takes the leaves of each folder to those of the
folder without colours, and folding carries that through every nesting (`FaultFolder.Maps.fold`).

A text with styles of its own is shown as it is, or else made anew of its characters.  Both are the
same because no styled text holds a character that moves the cursor (`Fragment.Fits`).
-/

namespace CommandSpec

/-! ## Texts -/

namespace StyledText

variable {t u : StyledText} {style : String}

/-- A text that carries no style. -/
structure IsUncoloured (t : StyledText) : Prop where
  style_eq : t.style = ""
  spans_eq : t.spans = []

theorem isUncoloured_uncoloured (t : StyledText) : t.uncoloured.IsUncoloured := ⟨rfl, rfl⟩

/-- No text is made with a character that moves the cursor. -/
theorem fits_of (style s : String) : Fits (of style s).plain := by
  intro c hc
  rw [of, String.toList_ofList] at hc
  simpa using (List.mem_filter.mp hc).2

/-- A text without styles leaves no span in a text that it becomes a part of. -/
theorem partSpans_uncoloured (t : StyledText) : t.uncoloured.partSpans = [] := by
  rw [partSpans]
  split <;> rfl

theorem uncoloured_append (t u : StyledText) :
    (t.append u).uncoloured = t.uncoloured.append u.uncoloured := by
  rw [append, append, partSpans_uncoloured]
  rfl

theorem uncoloured_foldl_append (parts : List StyledText) (t : StyledText) :
    (parts.foldl append t).uncoloured = (parts.map uncoloured).foldl append t.uncoloured := by
  rw [List.foldl_map]
  exact (List.foldl_hom uncoloured fun t u => (uncoloured_append t u).symm).symm

theorem uncoloured_assemble (parts : List StyledText) :
    (assemble parts).uncoloured = assemble (parts.map uncoloured) :=
  uncoloured_foldl_append parts _

theorem map_intersperse_uncoloured (sep : StyledText) (parts : List StyledText) :
    (parts.intersperse sep).map uncoloured = (parts.map uncoloured).intersperse sep.uncoloured := by
  induction parts with
  | nil => rfl
  | cons p parts ih =>
    cases parts with
    | nil => rfl
    | cons q parts =>
      rw [List.intersperse_cons_cons, List.map_cons, List.map_cons, ih]
      rfl

theorem uncoloured_join (sep : StyledText) (parts : List StyledText) :
    (join sep parts).uncoloured = join sep.uncoloured (parts.map uncoloured) := by
  rw [join, join, uncoloured_foldl_append]
  show _ = (if sep.plain = "" then _ else _ : List StyledText).foldl append _
  split
  · rfl
  · rw [map_intersperse_uncoloured]
    rfl

/-- Whatever is laid over a text is dropped with its styles. -/
theorem uncoloured_stylize (t : StyledText) (style : String) :
    (t.stylize style).uncoloured = t.uncoloured := by
  rw [stylize]
  split <;> rfl

end StyledText

/-! ## Looks -/

/-- **A fragment as its maker can make it**: no styled text holds a character that moves the
cursor. -/
def Fragment.Fits : Fragment → Prop
  | .plain _ => True
  | .styled t => StyledText.Fits t.plain

instance : (f : Fragment) → Decidable f.Fits
  | .plain _ => isTrue trivial
  | .styled t => inferInstanceAs (Decidable (StyledText.Fits t.plain))

namespace Look

/-- The look without colours. -/
def uncoloured (look : Look) : Look := ⟨false, look.styles⟩

variable (look : Look) (key : String)

theorem uncoloured_part (s : String) :
    (look.part key s).uncoloured = look.uncoloured.part key s := rfl

/-- **A fragment with styles of its own** becomes the text that is made of its characters. -/
theorem uncoloured_fragment {f : Fragment} (hf : f.Fits) :
    (look.fragment key f).uncoloured = look.uncoloured.fragment key f := by
  cases f with
  | plain s => exact look.uncoloured_part key s
  | styled t =>
    have hmade : t.uncoloured = .unstyled t.plain :=
      congrArg (StyledText.mk · "" []) (StyledText.plain_of "" hf).symm
    show (if look.colourful then t else .unstyled t.plain).uncoloured = .unstyled t.plain
    split
    · exact hmade
    · rfl

end Look

/-! ## Folding two ways -/

namespace FaultFolder

variable {α β : Type} {f : FaultFolder α} {g : FaultFolder β} {h : α → β}

/-- **A map from what one folder makes of a fault to what another makes of it**, leaf by leaf. -/
structure Maps (f : FaultFolder α) (g : FaultFolder β) (h : α → β) : Prop where
  noIdMatch : ∀ given available, h (f.noIdMatch given available) = g.noIdMatch given available
  ambiguousId : ∀ candidates given,
    h (f.ambiguousId candidates given) = g.ambiguousId candidates given
  incompletePath : ∀ available, h (f.incompletePath available) = g.incompletePath available
  badPathId? : g.badPathId? = f.badPathId?.map (h ∘ ·)
  trailingPath : ∀ extra, h (f.trailingPath extra) = g.trailingPath extra
  noInput : h f.noInput = g.noInput
  badId? : g.badId? = f.badId?.map (h ∘ ·)
  missingRequired : ∀ cmd arg, h (f.missingRequired cmd arg) = g.missingRequired cmd arg
  badConvert : ∀ cmd arg inner, h (f.badConvert cmd arg inner) = g.badConvert cmd arg (h inner)
  trailing : ∀ cmd extra, h (f.trailing cmd extra) = g.trailing cmd extra
  subcommand : ∀ cmd inner, h (f.subcommand cmd inner) = g.subcommand cmd (h inner)
  other : ∀ e, h (f.other e) = g.other e

theorem Maps.foldId (m : Maps f g h) (e : Fault) : h (f.foldId e) = g.foldId e := by
  cases e with
  | noMatch given available => exact m.noIdMatch given available
  | ambiguousId candidates given => exact m.ambiguousId candidates given
  | _ => exact m.other _

/-- A leaf in place of the fold of a wrapped fault is mapped where that fold is. -/
theorem Maps.getD_foldId (m : Maps f g h) {leaf : Option (Fault → α)} (e : Fault) :
    h (leaf.getD f.foldId e) = (leaf.map (h ∘ ·)).getD g.foldId e := by
  cases leaf with
  | none => exact m.foldId e
  | some leaf => rfl

/-- **What holds of the leaves holds of every nesting.** -/
theorem Maps.fold (m : Maps f g h) (e : Fault) : h (f.fold e) = g.fold e := by
  induction e with
  | noMatch given available => exact m.noIdMatch given available
  | ambiguousId candidates given => exact m.ambiguousId candidates given
  | incompletePath available => exact m.incompletePath available
  | badPathId inner =>
    rw [FaultFolder.fold, FaultFolder.fold, m.badPathId?]
    exact m.getD_foldId inner
  | trailingPath extra => exact m.trailingPath extra
  | noInput => exact m.noInput
  | badId inner =>
    rw [FaultFolder.fold, FaultFolder.fold, m.badId?]
    exact m.getD_foldId inner
  | missingRequired cmd arg => exact m.missingRequired cmd arg
  | badConvert cmd arg inner ih =>
    rw [FaultFolder.fold, FaultFolder.fold, m.badConvert, ih]
  | trailingArgument cmd extra => exact m.trailing cmd extra
  | subcommand cmd inner ih =>
    rw [FaultFolder.fold, FaultFolder.fold, m.subcommand]
    split
    · rw [ih]
    · rw [m.other]
  | _ => exact m.other _

end FaultFolder

/-! ## Markup -/

namespace StyledTable

/-- A table without its styles. -/
def uncoloured (t : StyledTable) : StyledTable :=
  ⟨t.title.uncoloured, "", t.rows.map fun r => (r.1.uncoloured, r.2.uncoloured)⟩

/-- A table that carries no style. -/
structure IsUncoloured (t : StyledTable) : Prop where
  title : t.title.IsUncoloured
  style_eq : t.style = ""
  rows : ∀ r ∈ t.rows, r.1.IsUncoloured ∧ r.2.IsUncoloured

/-- What stands in the rows of a table. -/
def words (t : StyledTable) : List (String × String) := t.rows.map fun r => (r.1.plain, r.2.plain)

theorem isUncoloured_uncoloured (t : StyledTable) : t.uncoloured.IsUncoloured where
  title := ⟨rfl, rfl⟩
  style_eq := rfl
  rows := List.forall_mem_map.mpr fun _ _ => ⟨⟨rfl, rfl⟩, ⟨rfl, rfl⟩⟩

theorem words_uncoloured (t : StyledTable) : t.uncoloured.words = t.words := List.map_map

end StyledTable

namespace Markup

mutual

/-- **A markup without its styles.** -/
def uncoloured : Markup → Markup
  | .text t => .text t.uncoloured
  | .group items => .group (allUncoloured items)
  | .panel child title => .panel child.uncoloured title.uncoloured
  | .table t => .table t.uncoloured

/-- Several markups without their styles. -/
def allUncoloured : List Markup → List Markup
  | [] => []
  | m :: ms => m.uncoloured :: allUncoloured ms

end

theorem allUncoloured_eq_map (ms : List Markup) : allUncoloured ms = ms.map uncoloured := by
  induction ms with
  | nil => rfl
  | cons m ms ih => rw [allUncoloured, ih, List.map_cons]

/-- A group of texts, each without its styles. -/
theorem uncoloured_group_text (ts : List StyledText) :
    (group (ts.map text)).uncoloured = group ((ts.map StyledText.uncoloured).map text) := by
  rw [uncoloured, allUncoloured_eq_map, List.map_map, List.map_map]
  rfl

/-- **A markup that carries no style anywhere.** -/
inductive IsUncoloured : Markup → Prop
  | text {t : StyledText} : t.IsUncoloured → IsUncoloured (.text t)
  | group {items : List Markup} : (∀ m ∈ items, IsUncoloured m) → IsUncoloured (.group items)
  | panel {child : Markup} {title : StyledText} :
      IsUncoloured child → title.IsUncoloured → IsUncoloured (.panel child title)
  | table {t : StyledTable} : t.IsUncoloured → IsUncoloured (.table t)

/-- **Two markups of one shape that say the same**: the same texts, titles and rows in the same
places, whatever their styles. -/
inductive SaysSame : Markup → Markup → Prop
  | text {t u : StyledText} : t.plain = u.plain → SaysSame (.text t) (.text u)
  | group {ms ns : List Markup} : List.Forall₂ SaysSame ms ns → SaysSame (.group ms) (.group ns)
  | panel {m n : Markup} {t u : StyledText} :
      SaysSame m n → t.plain = u.plain → SaysSame (.panel m t) (.panel n u)
  | table {t u : StyledTable} :
      t.title.plain = u.title.plain → t.words = u.words → SaysSame (.table t) (.table u)

mutual

/-- Without its styles a markup says the same. -/
theorem saysSame_uncoloured : ∀ m : Markup, m.SaysSame m.uncoloured
  | .text _ => .text rfl
  | .group items => .group (forall₂_saysSame_allUncoloured items)
  | .panel child _ => .panel (saysSame_uncoloured child) rfl
  | .table t => .table rfl t.words_uncoloured.symm

theorem forall₂_saysSame_allUncoloured :
    ∀ ms : List Markup, List.Forall₂ SaysSame ms (allUncoloured ms)
  | [] => .nil
  | m :: ms => .cons (saysSame_uncoloured m) (forall₂_saysSame_allUncoloured ms)

end

mutual

/-- A markup without its styles carries none. -/
theorem isUncoloured_uncoloured : ∀ m : Markup, m.uncoloured.IsUncoloured
  | .text t => .text t.isUncoloured_uncoloured
  | .group items => .group (isUncoloured_of_mem_allUncoloured items)
  | .panel child title => .panel (isUncoloured_uncoloured child) title.isUncoloured_uncoloured
  | .table t => .table t.isUncoloured_uncoloured

theorem isUncoloured_of_mem_allUncoloured :
    ∀ ms : List Markup, ∀ m ∈ allUncoloured ms, m.IsUncoloured
  | [], _, h => nomatch h
  | m :: ms, n, h => by
    rcases List.mem_cons.mp h with rfl | h
    · exact isUncoloured_uncoloured m
    · exact isUncoloured_of_mem_allUncoloured ms n h

end

/-- **A markup differs from a coloured one by the styles it lacks**, and by nothing else. -/
structure Uncolours (bare coloured : Markup) : Prop where
  eq_uncoloured : bare = coloured.uncoloured
  saysSame : coloured.SaysSame bare
  isUncoloured : bare.IsUncoloured

theorem uncolours_of_eq {bare coloured : Markup} (h : coloured.uncoloured = bare) :
    bare.Uncolours coloured := by
  subst h
  exact ⟨rfl, coloured.saysSame_uncoloured, coloured.isUncoloured_uncoloured⟩

end Markup

/-! ## Hosts and topics -/

/-- **A host as there can be one**: its styled fragments hold no character that moves the cursor. -/
structure Host.Fits (host : Host) : Prop where
  program : ∀ f ∈ host.program, f.Fits
  hints : ∀ code f, (code, some f) ∈ host.hints → f.Fits

theorem Host.Fits.of_hint? {host : Host} (h : host.Fits) {code : FaultCode} {f : Fragment}
    (hf : host.hint? code = some f) : f.Fits := by
  obtain ⟨hint, hlookup, rfl⟩ : ∃ hint, host.hints.lookup code = some hint ∧ hint = some f := by
    simpa [Host.hint?, Option.join_eq_some_iff] using hf
  obtain ⟨before, after, hhints, -⟩ := List.lookup_eq_some_iff.mp hlookup
  refine h.hints code f ?_
  rw [hhints]
  exact List.mem_append_right before List.mem_cons_self

/-- **A topic as there can be one**: its summary holds no character that moves the cursor, if it has
styles of its own. -/
def Topic.Fits : Topic → Prop
  | .family summary _ => ∀ f ∈ summary, f.Fits
  | .command _ _ | .custom _ => True

namespace Styled

open StyledText

/-! ## Faults -/

section Faults

variable (look : Look) (suggest : Bool)

theorem uncoloured_optionList (names : List Datum) :
    (optionList look names).uncoloured = optionList look.uncoloured names := by
  rw [optionList, uncoloured_join, List.map_map]
  rfl

theorem uncoloured_noIdMatch (given : FaultPart) (available : List Datum) :
    (noIdMatch look suggest given available).uncoloured =
      noIdMatch look.uncoloured suggest given available := by
  have hmessage : (assemble [unstyled "Not sure what you mean by ", faultPart look "token" given,
      unstyled "."]).uncoloured = assemble [unstyled "Not sure what you mean by ",
        faultPart look.uncoloured "token" given, unstyled "."] := uncoloured_assemble _
  rw [noIdMatch, noIdMatch]
  split
  · rw [uncoloured_assemble, List.map_cons, List.map_cons, List.map_singleton, hmessage,
      uncoloured_optionList]
    rfl
  split
  · rw [uncoloured_assemble, List.map_cons, List.map_cons, List.map_singleton, hmessage,
      uncoloured_optionList]
    rfl
  · exact hmessage

/-- **Each leaf drops its styles** where there are no colours. -/
theorem maps_faults : (faults look suggest).Maps (faults look.uncoloured suggest) uncoloured where
  noIdMatch := uncoloured_noIdMatch look suggest
  ambiguousId candidates given := by
    simp only [faults, uncoloured_assemble, List.map_cons, List.map_nil, uncoloured_optionList]
    rfl
  incompletePath available := by
    simp only [faults, uncoloured_assemble, List.map_cons, List.map_nil, uncoloured_optionList]
    rfl
  badPathId? := rfl
  trailingPath _ := uncoloured_assemble _
  noInput := rfl
  badId? := rfl
  missingRequired _ _ := uncoloured_assemble _
  badConvert _ _ _ := uncoloured_assemble _
  trailing _ _ := uncoloured_assemble _
  subcommand _ _ := uncoloured_assemble _
  other _ := rfl

theorem uncoloured_header (host : Host) (hhost : host.Fits) (e : Fault) :
    (header host look e).uncoloured = header host look.uncoloured e := by
  have hprogram : ∀ p ∈ host.program, (look.fragment "prog-name" p).uncoloured =
      look.uncoloured.fragment "prog-name" p :=
    fun p hp => look.uncoloured_fragment "prog-name" (hhost.program p hp)
  rw [header, header, uncoloured_assemble]
  simp only [List.map_append, List.map_cons, List.map_nil]
  cases hp : host.program with
  | none => cases e.code? <;> rfl
  | some p =>
    have hp := hprogram p hp
    dsimp only
    split <;> cases e.code? <;> simp only [List.map_cons, List.map_nil, hp] <;> rfl

theorem uncoloured_hint? (host : Host) (hhost : host.Fits) (e : Fault) :
    (hint? host look e).map uncoloured = hint? host look.uncoloured e := by
  rw [hint?, hint?]
  cases hh : e.code?.bind host.hint? with
  | none => rfl
  | some h =>
    obtain ⟨code, -, hcode⟩ := Option.bind_eq_some_iff.mp hh
    have hfits : h.Fits := hhost.of_hint? hcode
    dsimp only
    split
    · rfl
    · rw [Option.map_some, uncoloured_assemble, List.map_cons, List.map_singleton,
        look.uncoloured_fragment "hint" hfits]
      rfl

end Faults

/-- **The message of a fault** without colours is the coloured one without its styles. -/
theorem uncoloured_message (host : Host) (fancy suggest : Bool) (e : Fault) :
    (message host ⟨true, fancy, suggest⟩ e).uncoloured = message host ⟨false, fancy, suggest⟩ e :=
  (maps_faults (faultLook host ⟨true, fancy, suggest⟩) suggest).fold e

/-- **The report of a fault** without colours is the coloured one without its styles. -/
theorem uncoloured_report {host : Host} (hhost : host.Fits) (fancy suggest : Bool) (e : Fault) :
    (report host ⟨true, fancy, suggest⟩ e).uncoloured =
      report host ⟨false, fancy, suggest⟩ e := by
  have hheader := uncoloured_header (faultLook host ⟨true, fancy, suggest⟩) host hhost e
  have hhint := uncoloured_hint? (faultLook host ⟨true, fancy, suggest⟩) host hhost e
  have hbody : ((message host ⟨true, fancy, suggest⟩ e).stylize
        ((faultLook host ⟨true, fancy, suggest⟩).style "error-message") ::
          (hint? host (faultLook host ⟨true, fancy, suggest⟩) e).toList).map uncoloured =
      message host ⟨false, fancy, suggest⟩ e ::
        (hint? host (faultLook host ⟨false, fancy, suggest⟩) e).toList := by
    rw [List.map_cons, uncoloured_stylize, uncoloured_message, ← Option.toList_map, hhint]
    rfl
  rw [report, report]
  dsimp only
  split
  · rw [Markup.uncoloured, Markup.uncoloured_group_text, hbody, hheader]
    rfl
  · rw [Markup.uncoloured_group_text, List.map_cons, hbody, hheader]
    rfl

/-! ## Help topics -/

section Help

variable (look : Look)

theorem uncoloured_usageLine (ids : List String) (args : List StyledText) :
    (usageLine look ids args).uncoloured =
      usageLine look.uncoloured ids (args.map uncoloured) :=
  uncoloured_join _ _

theorem uncoloured_labelled (label : String) (body : StyledText) :
    (labelled look label body).uncoloured = labelled look.uncoloured label body.uncoloured :=
  uncoloured_assemble _

theorem map_uncoloured_foldArguments (u : Usage) :
    ((help look).foldArguments u).map uncoloured = (help look.uncoloured).foldArguments u :=
  List.map_map

theorem uncoloured_foldLong (u : Usage) :
    ((help look).foldLong u).uncoloured = (help look.uncoloured).foldLong u := by
  rw [HelpFolder.foldLong, HelpFolder.foldLong, ← map_uncoloured_foldArguments]
  simp only [help, uncoloured_assemble, List.map_cons, List.map_nil, uncoloured_usageLine]
  rfl

theorem uncoloured_foldShort (u : Usage) :
    (((help look).foldShort u).1.uncoloured, ((help look).foldShort u).2.uncoloured) =
      (help look.uncoloured).foldShort u := by
  rw [HelpFolder.foldShort, HelpFolder.foldShort, ← map_uncoloured_foldArguments]
  exact Prod.ext (uncoloured_usageLine look u.ids _) rfl

theorem uncoloured_argumentDesc (name : String) (isRequired : Bool) (desc : String) :
    ((help look).argumentDesc name isRequired desc).uncoloured =
      (help look.uncoloured).argumentDesc name isRequired desc := by
  simp only [help, uncoloured_assemble, List.map_append]
  cases isRequired <;> rfl

theorem uncoloured_commandDesc (summary examples : Option String) (args : List StyledText) :
    ((help look).commandDesc summary args examples).uncoloured =
      (help look.uncoloured).commandDesc summary (args.map uncoloured) examples := by
  simp only [help, uncoloured_join, List.map_append, List.map_map, Function.comp_def,
    uncoloured_labelled, Look.uncoloured_part, List.isEmpty_map]
  refine congrArg (fun sections => join (unstyled "\n\n") (_ ++ sections ++ _)) ?_
  split
  · rfl
  · rw [List.map_singleton, uncoloured_labelled, uncoloured_join]
    rfl

theorem uncoloured_foldDesc (d : CommandDesc) :
    ((help look).foldDesc d).uncoloured = (help look.uncoloured).foldDesc d := by
  have hargs : (d.args.map fun a => (help look).argumentDesc a.name a.isRequired a.desc).map
      uncoloured = d.args.map fun a =>
        (help look.uncoloured).argumentDesc a.name a.isRequired a.desc := by
    rw [List.map_map]
    exact List.map_congr_left fun a _ =>
      uncoloured_argumentDesc look a.name a.isRequired a.desc
  rw [HelpFolder.foldDesc, HelpFolder.foldDesc, ← hargs]
  exact uncoloured_commandDesc look _ _ _

/-- A command is shown with its description, or with its usage alone if there is none. -/
theorem uncoloured_commandTopic (usage desc : StyledText) :
    ((help look).commandTopic usage desc).uncoloured =
      (help look.uncoloured).commandTopic usage.uncoloured desc.uncoloured := by
  show (if desc.plain = "" then _ else _ : Markup).uncoloured = if desc.plain = "" then _ else _
  split
  · rfl
  · exact Markup.uncoloured_group_text [usage, unstyled "", desc]

/-- A family is shown with its summary, if there is one, and the table of its members. -/
theorem uncoloured_familyTopic {summary : Option Fragment} (hsummary : ∀ f ∈ summary, f.Fits)
    (commands : List (StyledText × StyledText)) :
    ((help look).familyTopic summary commands).uncoloured =
      (help look.uncoloured).familyTopic summary
        (commands.map fun c => (c.1.uncoloured, c.2.uncoloured)) := by
  have hshown : ∀ f ∈ summary.toList.filter (!·.isEmpty),
      Markup.uncoloured (.text (look.fragment "description" f)) =
        .text (look.uncoloured.fragment "description" f) := fun f hf =>
    congrArg Markup.text (look.uncoloured_fragment "description"
      (hsummary f (Option.mem_toList.mp (List.mem_filter.mp hf).1)))
  simp only [help, Markup.uncoloured, Markup.allUncoloured_eq_map, List.map_append, List.map_map,
    List.isEmpty_map]
  refine congrArg₂ (fun shown table => Markup.group (shown ++ table))
    (List.map_congr_left hshown) ?_
  split <;> rfl

/-- **Each part of a topic drops its styles** where there are no colours, and so does the topic. -/
theorem uncoloured_fold {topic : Topic} (htopic : topic.Fits) :
    ((help look).fold topic).uncoloured = (help look.uncoloured).fold topic := by
  cases topic with
  | command usage desc =>
    rw [HelpFolder.fold, HelpFolder.fold, uncoloured_commandTopic, uncoloured_foldLong,
      uncoloured_foldDesc]
  | family summary commands =>
    rw [HelpFolder.fold, HelpFolder.fold, uncoloured_familyTopic look htopic, List.map_map]
    exact congrArg _ (List.map_congr_left fun u _ => uncoloured_foldShort look u)
  | custom text => rfl

end Help

/-- **The help text for a topic** without colours is the coloured one without its styles. -/
theorem uncoloured_display (host : Host) (fancy : Bool) (title : Option String) {topic : Topic}
    (htopic : topic.Fits) : (display host ⟨true, fancy⟩ title topic).uncoloured =
      display host ⟨false, fancy⟩ title topic := by
  have hbody := uncoloured_fold (helpLook host ⟨true, fancy⟩) htopic
  rw [display, display]
  dsimp only
  split
  · rw [Markup.uncoloured, hbody]
    rfl
  · exact hbody

/-- **Turning colours off removes the styles, and nothing else**, from what is shown of a fault or
of a help topic, whatever the host has settled and whichever frame and title are asked for. -/
theorem uncolours_colourless {host : Host} (hhost : host.Fits) :
    (∀ (fancy suggest : Bool) (e : Fault),
      message host ⟨false, fancy, suggest⟩ e = (message host ⟨true, fancy, suggest⟩ e).uncoloured ∧
      (report host ⟨false, fancy, suggest⟩ e).Uncolours (report host ⟨true, fancy, suggest⟩ e)) ∧
    ∀ (fancy : Bool) (title : Option String) (topic : Topic), topic.Fits →
      (display host ⟨false, fancy⟩ title topic).Uncolours
        (display host ⟨true, fancy⟩ title topic) := by
  refine ⟨fun fancy suggest e => ⟨?_, ?_⟩, fun fancy title topic htopic => ?_⟩
  · exact (uncoloured_message host fancy suggest e).symm
  · exact Markup.uncolours_of_eq (uncoloured_report hhost fancy suggest e)
  · exact Markup.uncolours_of_eq (uncoloured_display host fancy title htopic)

namespace Sample

/-- A host with a styled name and a styled hint, and with a style of its own for names. -/
def painted : Host where
  program := some (.styled ⟨"git", "bold", [⟨0, 1, "red"⟩]⟩)
  codes := [(.subcommand, .text "nested")]
  hints := [(.subcommand, some (.styled ⟨"Ask for help.", "italic", []⟩))]
  styles := [("command", "blue"), ("section-label", "")]

/-- A family with a styled summary. -/
def remotes : Topic :=
  .family (some (.styled ⟨"Remotes.", "bold", [⟨0, 2, "red"⟩]⟩)) [⟨["add"], [], [], none, "Add."⟩]

theorem fits_painted : painted.Fits where
  program := by
    rintro f ⟨⟩
    decide
  hints := by
    intro code f h
    obtain ⟨rfl, rfl⟩ : code = .subcommand ∧ f = .styled ⟨"Ask for help.", "italic", []⟩ := by
      simpa [painted] using h
    decide

theorem fits_remotes : remotes.Fits := by
  rintro f ⟨⟩
  decide

theorem uncolours_colourless_painted :
    painted.Fits ∧ remotes.Fits ∧
      (report painted ⟨false, true, true⟩ nested).Uncolours
        (report painted ⟨true, true, true⟩ nested) ∧
      (display painted ⟨false, false⟩ none remotes).Uncolours
        (display painted ⟨true, false⟩ none remotes) ∧
      display painted ⟨true, false⟩ none remotes = .group [
        .text ⟨"Remotes.", "bold", [⟨0, 2, "red"⟩]⟩,
        .table ⟨⟨"commands", "", []⟩, "#4B5563",
          [(⟨"add", "", [⟨0, 3, "bold #FF4D94"⟩]⟩, ⟨"Add.", "italic #A3A3A3", []⟩)]⟩] :=
  ⟨fits_painted, fits_remotes, ((uncolours_colourless fits_painted).1 true true nested).2,
    (uncolours_colourless fits_painted).2 false none remotes fits_remotes, rfl⟩

end Sample

end Styled

end CommandSpec
