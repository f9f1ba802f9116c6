import CommandSpec.Proofs.Command.Canonical
import CommandSpec.Proofs.Command.Consumption

/-!
# Proofs/Command/Unparse — a value is read again from the tokens that it is written with

A value that has been read can be written out as tokens: the canonical name of its command, and then
its fields in the order of the usage, each argument as it was given (`Value.slots?`).  These tokens
are as many as those that the value has been read from, they differ from them in names alone, and
they are read as the same value again (`parse_slots`).

A value that something else has made, which stands in the place of a reader or of what makes values,
cannot be written: what it has been called with is in it (`CommandType.slots?_of_call`).
-/

namespace CommandSpec

/-! ## Writing a value -/

/-- One token of a value that is written out. -/
inductive TokenSlot where
  /-- The canonical name of a command. -/
  | name (canonical : String)
  /-- The token of a plain argument. -/
  | argument (token : String)
  deriving DecidableEq, Repr

namespace TokenSlot

/-- The token itself. -/
def text : TokenSlot → String
  | name s | argument s => s

/-- Whether a slot can stand for a token: a plain argument stands for itself alone. -/
def Fits : TokenSlot → String → Prop
  | name _, _ => True
  | argument a, token => a = token

theorem map_text_argument : ∀ tokens : List String, (tokens.map argument).map text = tokens
  | [] => rfl
  | token :: tokens => congrArg (token :: ·) (map_text_argument tokens)

theorem map_text_name : ∀ names : List String, (names.map name).map text = names
  | [] => rfl
  | n :: names => congrArg (n :: ·) (map_text_name names)

/-- Where an argument stands, the token is the same. -/
theorem getElem?_of_fits {slots : List TokenSlot} {ts : List String}
    (h : List.Forall₂ Fits slots ts) : ∀ {i : Nat} {token : String},
      slots[i]? = some (argument token) → ts[i]? = some token := by
  induction h with
  | nil => exact fun hi => nomatch hi
  | cons hfits _ ih =>
    intro i token hi
    obtain _ | i := i
    · obtain rfl := Option.some.inj hi
      exact congrArg some (Eq.symm hfits)
    · exact ih hi

/-- The slots of the items of a rest argument. -/
def ofItems? : List Value → Option (List TokenSlot)
  | [] => some []
  | .text s :: items => (ofItems? items).map (argument s :: ·)
  | _ :: _ => none

theorem ofItems?_texts : ∀ tokens : List String,
    ofItems? (tokens.map .text) = some (tokens.map .argument)
  | [] => rfl
  | token :: tokens => by
    rw [List.map_cons, ofItems?, ofItems?_texts tokens]
    rfl

end TokenSlot

namespace Value

mutual

/-- **The tokens that a value is written with**, if it is made of what tokens are read as. -/
def slots? : Value → Option (List TokenSlot)
  | .text s => some [.argument s]
  | .none => some []
  | .tuple items => TokenSlot.ofItems? items
  | .path p => some (p.names.map .name)
  | .command i fields => (fieldSlots? fields).map (.name i.name :: ·)
  | _ => Option.none

/-- The tokens that fields are written with, in their order. -/
def fieldSlots? : List (String × Value) → Option (List TokenSlot)
  | [] => some []
  | (_, v) :: fields => (slots? v).bind fun slots => (fieldSlots? fields).map (slots ++ ·)

end

theorem fieldSlots?_append {xs ys : List (String × Value)} {slots : List TokenSlot} :
    fieldSlots? (xs ++ ys) = some slots ↔
      ∃ before after, fieldSlots? xs = some before ∧ fieldSlots? ys = some after ∧
        before ++ after = slots := by
  induction xs generalizing slots with
  | nil => simp [fieldSlots?]
  | cons x xs ih =>
    obtain ⟨attr, v⟩ := x
    rw [List.cons_append, fieldSlots?, fieldSlots?]
    cases slots? v with
    | none => simp
    | some first =>
      rw [Option.bind_some, Option.bind_some, Option.map_eq_some_iff]
      constructor
      · rintro ⟨more, hmore, rfl⟩
        obtain ⟨before, after, hxs, hys, rfl⟩ := ih.1 hmore
        exact ⟨first ++ before, after, by rw [hxs, Option.map_some], hys, List.append_assoc ..⟩
      · rintro ⟨_, after, hbefore, hys, rfl⟩
        obtain ⟨before, hxs, rfl⟩ := Option.map_eq_some_iff.1 hbefore
        exact ⟨before ++ after, ih.2 ⟨before, after, hxs, hys, rfl⟩, (List.append_assoc ..).symm⟩

theorem fieldSlots?_singleton (attr : String) (v : Value) : fieldSlots? [(attr, v)] = slots? v := by
  rw [fieldSlots?, fieldSlots?]
  cases slots? v with
  | none => rfl
  | some slots => simp

theorem fieldSlots?_cons_of_eq_some {attr : String} {v : Value} {fields : List (String × Value)}
    {first more : List TokenSlot} (hv : slots? v = some first)
    (hmore : fieldSlots? fields = some more) :
    fieldSlots? ((attr, v) :: fields) = some (first ++ more) := by
  rw [fieldSlots?, hv, hmore]
  rfl

theorem slots?_text (token : String) : slots? (.text token) = some [.argument token] := by
  rw [slots?]

theorem slots?_none : slots? .none = some [] := by
  rw [slots?]

end Value

open Value (slots? fieldSlots? fieldSlots?_append fieldSlots?_singleton fieldSlots?_cons_of_eq_some
  slots?_text slots?_none)

/-! ## Plain fields -/

section PlainFields

variable {cmd : FaultPart}

theorem convert_text {arg token : String} {ts ts' : List String} {v : Value} :
    TokenReading.convert cmd arg .text token ts = .ok v ts' ↔ .text token = v ∧ ts = ts' := by
  rw [TokenReading.convert_eq_ok_iff, Converter.text, Except.ok.injEq]

/-- **Required fields keep their tokens** and are read again from them, whatever follows. -/
theorem required_texts :
    ∀ {fs : List PlainField} {ts ts' : List String} {fields : List (String × Value)},
      (∀ f ∈ fs, f.converter = .text) → TokenReading.required cmd fs ts = .ok fields ts' →
      ∃ used, used ++ ts' = ts ∧ fieldSlots? fields = some (used.map .argument) ∧
        ∀ more, TokenReading.required cmd fs (used ++ more) = .ok fields more := by
  intro fs
  induction fs with
  | nil =>
    rintro ts ts' fields - ⟨⟩
    exact ⟨[], rfl, rfl, fun _ => rfl⟩
  | cons f fs ih =>
    intro ts ts' fields hf h
    have hconverter := hf f (List.mem_cons_self ..)
    obtain ⟨token, ts, v, vs, rfl, hv, hvs, rfl⟩ := required_cons_eq_ok_iff.1 h
    obtain ⟨used, rfl, hslots, hagain⟩ := ih (fun g hg => hf g (List.mem_cons_of_mem f hg)) hvs
    have htext : .text token = v := by
      rw [hconverter] at hv
      exact Except.ok.inj hv
    refine ⟨token :: used, rfl, ?_, fun more => required_cons_eq_ok_iff.2 ?_⟩
    · rw [← htext]
      exact fieldSlots?_cons_of_eq_some (slots?_text token) hslots
    · exact ⟨token, used ++ more, v, vs, rfl, hv, hagain more, rfl⟩

/-- An optional field takes the next token, or has been left out at the end. -/
theorem optionalValue_text {f : PlainField} (hf : f.converter = .text) {ts ts' : List String}
    {v : Value} :
    TokenReading.optionalValue cmd f ts = .ok v ts' ↔
      (ts = [] ∧ v = .none ∧ ts' = []) ∨ ∃ token, ts = token :: ts' ∧ v = .text token := by
  rw [TokenReading.optionalValue, TokenReading.next_bind_eq_ok_iff]
  cases ts with
  | nil =>
    constructor
    · intro h
      obtain ⟨rfl, rfl⟩ := pure_eq_ok_iff.1 h
      exact .inl ⟨rfl, rfl, rfl⟩
    · rintro (⟨-, rfl, rfl⟩ | ⟨_, ⟨⟩, -⟩)
      rfl
  | cons token ts =>
    rw [List.head?_cons, List.tail_cons]
    dsimp only
    rw [hf, convert_text]
    constructor
    · rintro ⟨rfl, rfl⟩
      exact .inr ⟨token, rfl, rfl⟩
    · rintro (⟨⟨⟩, -⟩ | ⟨_, ⟨⟩, rfl⟩)
      exact ⟨rfl, rfl⟩

/-- **Optional fields keep their tokens** and are read again from them, if as many follow: where
fields have been left out, none follows. -/
theorem optional_texts :
    ∀ {fs : List PlainField} {ts ts' : List String} {fields : List (String × Value)},
      (∀ f ∈ fs, f.converter = .text) → TokenReading.optional cmd fs ts = .ok fields ts' →
      ∃ used, used ++ ts' = ts ∧ fieldSlots? fields = some (used.map .argument) ∧
        ∀ more, more.length = ts'.length →
          TokenReading.optional cmd fs (used ++ more) = .ok fields more := by
  intro fs
  induction fs with
  | nil =>
    rintro ts ts' fields - ⟨⟩
    exact ⟨[], rfl, rfl, fun _ _ => rfl⟩
  | cons f fs ih =>
    intro ts ts' fields hf h
    have hconverter := hf f (List.mem_cons_self ..)
    obtain ⟨v, ts₁, vs, hv, hvs, rfl⟩ := optional_cons_eq_ok_iff.1 h
    obtain ⟨used, rfl, hslots, hagain⟩ := ih (fun g hg => hf g (List.mem_cons_of_mem f hg)) hvs
    rcases (optionalValue_text hconverter).1 hv with ⟨rfl, rfl, hnil⟩ | ⟨token, rfl, rfl⟩
    · obtain ⟨rfl, rfl⟩ := List.append_eq_nil_iff.1 hnil
      refine ⟨[], rfl, fieldSlots?_cons_of_eq_some slots?_none hslots, fun more hmore => ?_⟩
      obtain rfl := List.length_eq_zero_iff.1 hmore
      exact optional_cons_eq_ok_iff.2 ⟨.none, [], vs, hv, hagain [] rfl, rfl⟩
    · refine ⟨token :: used, rfl, fieldSlots?_cons_of_eq_some (slots?_text token) hslots,
        fun more hmore => optional_cons_eq_ok_iff.2 ?_⟩
      exact ⟨.text token, used ++ more, vs,
        (optionalValue_text hconverter).2 (.inr ⟨token, rfl, rfl⟩), hagain more hmore, rfl⟩

/-- A rest argument keeps its tokens, all that are left. -/
theorem convertAll_text (arg : String) :
    ∀ ts : List String,
      TokenReading.convertAll cmd arg .text ts = .ok (ts.map .text) []
  | [] => rfl
  | token :: ts => by
    rw [TokenReading.convertAll, convertAll_text arg ts]
    rfl

end PlainFields

/-! ## Commands -/

/-- The first argument of a call without a name becomes the first field. -/
theorem exists_of_bindAll {v : Value} {args : List Value} {named : List (String × Value)}
    {ps : List Parameter} {fields : List (String × Value)}
    (h : Parameter.bindAll named ps (v :: args) = .ok fields) :
    ∃ attr more, fields = (attr, v) :: more := by
  obtain _ | ⟨p, ps⟩ := ps
  · cases h
  rw [Parameter.bindAll] at h
  split at h
  · cases h
  split at h
  · cases h
  obtain ⟨more, -, rfl⟩ := except_map_eq_ok_iff.1 h
  exact ⟨p.name, more, rfl⟩

theorem Command.eq_of_store {c : Member} {fields : List (String × Value)} {v : Value}
    (h : c.store fields = .ok v) : v = .command c.id fields := by
  rw [store] at h
  split at h
  · cases h
  · exact (Except.ok.inj h).symm

/-- What a command makes of a thing is not made of what tokens are read as: the thing is in it. -/
theorem Command.slots?_of_bind {c : Member} {kind : String} {n : Nat} {args : List Value}
    {named : List (String × Value)} {v : Value}
    (h : c.bind (.thing kind n :: args) named = .ok v) : v.slots? = none := by
  obtain ⟨fields, hfields, hstore⟩ := except_bind_eq_ok_iff.1 h
  obtain ⟨attr, more, rfl⟩ := exists_of_bindAll hfields
  split at hstore
  · cases hstore
  · rw [eq_of_store hstore, slots?, fieldSlots?, slots?]
    · rfl
    all_goals nofun

/-- **What comes of calling a type with a thing** is not made of what tokens are read as.  A type
that is called in the stead of another one is given a thing, too: the other type. -/
theorem CommandType.slots?_of_call {t : CommandType} {kind : String} {n : Nat} {args : List Value}
    {named : List (String × Value)} {v : Value}
    (h : t.call (.thing kind n :: args) named = .ok v) : v.slots? = none := by
  rw [call] at h
  split at h
  · cases h
  · next u hu =>
    have : sizeOf u < sizeOf t := sizeOf_instead?_lt (instead?_of_maker hu)
    exact slots?_of_call h
  · cases t with
    | single c => exact Command.slots?_of_bind h
    | root k => cases k <;> cases h
    | family name serial summary members shared => cases h
termination_by sizeOf t

/-- So is what comes of calling what stands in the place of a method with a stream. -/
theorem Shared.slots?_call {s : Shared CommandType} {v : Value}
    (h : s.call [.thing Tokens.kindName 0] = .ok v) : v.slots? = none := by
  cases s with
  | constant d => cases h
  | type t => exact CommandType.slots?_of_call h
  | argument => cases h

/-- A value that can be written is made by its command itself. -/
theorem Command.eq_of_make_of_slots {c : Member} {fields : List (String × Value)} {v : Value}
    {slots : List TokenSlot} (h : c.make fields = .ok v) (hslots : v.slots? = some slots) :
    v = .command c.id fields := by
  cases hmaker : (CommandType.single c).maker with
  | own => exact eq_of_store (make_of_own hmaker fields ▸ h)
  | uncallable kind =>
    rw [make_of_uncallable hmaker] at h
    cases h
  | type u =>
    rw [make_of_type hmaker] at h
    cases (CommandType.slots?_of_call h).symm.trans hslots

/-- **A reading is reversible** if it takes all tokens, and the tokens that its value is written
with stand for them and are read as the value again. -/
def Reversible (step : TokenReading Value) : Prop :=
  ∀ (ts ts' : List String) (v : Value) (slots : List TokenSlot), step ts = .ok v ts' →
    v.slots? = some slots →
      ts' = [] ∧ List.Forall₂ TokenSlot.Fits slots ts ∧ step (slots.map TokenSlot.text) = .ok v []

theorem Reversible.wrapping {step : TokenReading Value} (h : Reversible step)
    (belongs : Fault → Bool) (wrap : Fault → Fault) :
    Reversible (TokenReading.wrapping belongs wrap step) := by
  intro ts ts' v slots hv hslots
  rw [TokenReading.wrapping_eq_ok_iff] at hv ⊢
  exact h ts ts' v slots hv hslots

theorem reversible_instead (s : Shared CommandType) : Reversible (TokenReading.instead s) := by
  intro ts ts' v slots hv hslots
  rw [Shared.slots?_call (TokenReading.instead_eq_ok_iff.1 hv).1] at hslots
  cases hslots

theorem reversible_convertAll (cmd : FaultPart) (arg : String) :
    Reversible (.tuple <$> TokenReading.convertAll cmd arg .text) := by
  intro ts ts' v slots hv hslots
  obtain ⟨vs, hvs, rfl⟩ := map_eq_ok_iff.1 hv
  rw [convertAll_text] at hvs
  cases hvs
  rw [slots?, TokenSlot.ofItems?_texts] at hslots
  obtain rfl := Option.some.inj hslots
  refine ⟨rfl, ?_, ?_⟩
  · rw [List.forall₂_map_left_iff]
    exact List.forall₂_same.2 fun _ _ => rfl
  · rw [TokenSlot.map_text_argument, map_eq_ok_iff]
    exact ⟨ts.map .text, convertAll_text arg ts, rfl⟩

theorem reversible_path {t : CommandType} (ht : t.Built) : Reversible (.path <$> t.pathTokens) := by
  intro ts ts' v slots hv hslots
  obtain ⟨p, hp, rfl⟩ := map_eq_ok_iff.1 hv
  rw [slots?] at hslots
  obtain rfl := Option.some.inj hslots
  obtain ⟨rfl, hlength, hnames⟩ := CommandType.pathTokens_names ht hp
  refine ⟨rfl, ?_, ?_⟩
  · rw [List.forall₂_map_left_iff]
    exact List.forall₂_iff_get.2 ⟨hlength, fun _ _ _ => trivial⟩
  · rw [TokenSlot.map_text_name, map_eq_ok_iff]
    exact ⟨p, hnames, rfl⟩

theorem reversible_optionalPath {t : CommandType} (ht : t.Built) :
    Reversible t.optionalPathTokens := by
  intro ts ts' v slots hv hslots
  rw [CommandType.optionalPathTokens_eq_ok_iff] at hv ⊢
  obtain ⟨rfl, rfl, rfl⟩ | ⟨hne, hpath⟩ := hv
  · rw [slots?_none] at hslots
    obtain rfl := Option.some.inj hslots
    exact ⟨rfl, .nil, .inl ⟨rfl, rfl, rfl⟩⟩
  · obtain ⟨rfl, hfits, hagain⟩ := reversible_path ht _ _ _ _ (map_eq_ok_iff.2 hpath) hslots
    refine ⟨rfl, hfits, .inr ⟨?_, map_eq_ok_iff.1 hagain⟩⟩
    intro hnil
    obtain rfl := List.map_eq_nil_iff.1 hnil
    exact hne (List.forall₂_nil_left_iff.1 hfits)

theorem reversible_pathField {t : CommandType} (ht : t.Built) (required : Bool) :
    Reversible (t.pathFieldTokens required) := by
  rw [CommandType.pathFieldTokens]
  split
  · next s _ => exact reversible_instead s
  · cases required with
    | true => exact reversible_path ht
    | false => exact reversible_optionalPath ht

theorem reversible_restValue {c : Member} {r : RestField CommandType}
    (hforeign : r.kind.foreign? = none)
    (htexts : ∀ converter, r.kind = .tokens converter → converter = .text)
    (hbuilt : ∀ u, r.kind.target? = some u → u.Built)
    {nested : (u : CommandType) → r.kind.target? = some u → TokenReading Value}
    (hnested : ∀ u hu, r.kind = .subcommand u → Reversible (nested u hu)) :
    Reversible (c.restValue r nested) := by
  obtain ⟨name, attr, isRequired, kind⟩ := r
  unfold Command.restValue
  cases kind with
  | tokens converter =>
    obtain rfl := htexts converter rfl
    exact reversible_convertAll c.called name
  | path u => exact (reversible_pathField (hbuilt u rfl) isRequired).wrapping _ _
  | subcommand u =>
    dsimp only
    split
    · next s _ => exact reversible_instead s
    · exact (hnested u rfl rfl).wrapping _ _
  | foreign isPath callable => cases hforeign

/-- The rest field is read again from the tokens that it is written with. -/
theorem restTokens_slots {c : Member} (hc : c.TakesTexts) (hnests : c.NestsTypes)
    (hbuilt : ∀ u, c.nested? = some u → u.Built)
    {nested : (u : CommandType) → c.nested? = some u → TokenReading Value}
    (hnested : ∀ u hu, c.subcommands? = some u → Reversible (nested u hu))
    {ts ts' : List String} {fields : List (String × Value)} {slots : List TokenSlot}
    (h : c.restTokens nested ts = .ok fields ts') (hslots : fieldSlots? fields = some slots) :
    ts' = [] ∧ List.Forall₂ TokenSlot.Fits slots ts ∧
      c.restTokens nested (slots.map TokenSlot.text) = .ok fields [] := by
  obtain hr | ⟨r, hr⟩ := Option.eq_none_or_eq_some c.rest
  · rw [Command.restTokens_none_eq_ok_iff hr] at h ⊢
    obtain ⟨rfl, rfl, rfl⟩ := h
    obtain rfl : [] = slots := Option.some.inj hslots
    exact ⟨rfl, .nil, rfl, rfl, rfl⟩
  · rw [Command.restTokens_some_eq_ok_iff hr] at h ⊢
    obtain ⟨hrequired, v, hv, rfl⟩ := h
    rw [fieldSlots?_singleton] at hslots
    have hreversible : Reversible (c.restValue r fun u hu =>
        nested u (CommandType.nested?_of_rest hr hu)) := by
      refine reversible_restValue (hnests r hr) (hc.rest r hr)
        (fun u hu => hbuilt u (CommandType.nested?_of_rest hr hu)) fun u hu hkind => ?_
      exact hnested u _ (Command.subcommands?_of_rest hr hkind)
    obtain ⟨rfl, hfits, hagain⟩ := hreversible _ _ _ _ hv hslots
    refine ⟨rfl, hfits, fun hnil => hrequired ?_, v, hagain, rfl⟩
    obtain rfl := List.map_eq_nil_iff.1 hnil
    exact List.forall₂_nil_left_iff.1 hfits

theorem forall₂_fits_argument : ∀ tokens : List String,
    List.Forall₂ TokenSlot.Fits (tokens.map .argument) tokens
  | [] => .nil
  | _ :: tokens => .cons rfl (forall₂_fits_argument tokens)

namespace CommandType

/-- **A command is read again from the tokens that it is written with**, which differ from those
that it has been read from in names alone. -/
theorem reversible_read {t : CommandType} (ht : t.Built)
    (htexts : t.Throughout Command.TakesTexts) (hnests : t.Throughout Command.NestsTypes) :
    Reversible t.readTokens := by
  intro ts ts' v slots hv hslots
  obtain ⟨token, ts₀, i, rfl, hroot, -, hname, hcommand, hfields⟩ := readTokens_eq_ok_iff.1 hv
  have hmem : t.members.get i ∈ t.members := List.get_mem t.members i
  have hc := htexts.of_mem hmem
  obtain ⟨required, ts₁, optional, ts₂, rest, hrequired, hoptional, hrest, hmake⟩ :=
    Command.fieldTokens_eq_ok_iff.1 hfields
  obtain rfl := Command.eq_of_make_of_slots hmake hslots
  rw [slots?, Option.map_eq_some_iff] at hslots
  obtain ⟨slots, hslots, rfl⟩ := hslots
  obtain ⟨_, rests, hplain, hrests, rfl⟩ := fieldSlots?_append.1 hslots
  obtain ⟨_, _, hslots₁, hslots₂, rfl⟩ := fieldSlots?_append.1 hplain
  -- each part keeps its tokens, and is read again in front of what comes after it
  obtain ⟨used₁, rfl, hused₁, hagain₁⟩ := required_texts hc.required hrequired
  obtain ⟨used₂, rfl, hused₂, hagain₂⟩ := optional_texts hc.optional hoptional
  obtain rfl := Option.some.inj (hused₁.symm.trans hslots₁)
  obtain rfl := Option.some.inj (hused₂.symm.trans hslots₂)
  obtain ⟨rfl, hfits, hagain₃⟩ := restTokens_slots hc (hnests.of_mem hmem)
    (fun u hu => ht.nested hmem hu)
    (fun u hu hu' => by
      have : sizeOf u < sizeOf t := sizeOf_nested_lt hmem hu
      exact reversible_read (ht.nested hmem hu) (htexts.nested hmem hu') (hnests.nested hmem hu'))
    hrest hrests
  refine ⟨rfl, .cons trivial ?_, ?_⟩
  · rw [List.append_assoc]
    exact List.rel_append (forall₂_fits_argument used₁)
      (List.rel_append (forall₂_fits_argument used₂) hfits)
  · rw [List.map_cons, List.map_append, List.map_append, TokenSlot.map_text_argument,
      TokenSlot.map_text_argument, List.append_assoc]
    refine readTokens_eq_ok_iff.2 ⟨_, _, i, rfl, hroot, ht.isNamed.resolve_name i, hname, hcommand,
      Command.fieldTokens_eq_ok_iff.2 ⟨required, _, optional, _, rest, hagain₁ _, ?_, hagain₃,
        hmake⟩⟩
    refine hagain₂ _ ?_
    rw [List.length_map, hfits.length_eq]
termination_by sizeOf t

end CommandType

/-! ## Values that can be written -/

section Writable

variable {ts ts' : List String} {v : Value}

theorem exists_slots_of_path {t : CommandType}
    (h : (.path <$> t.pathTokens : TokenReading Value) ts = .ok v ts') :
    ∃ slots, v.slots? = some slots := by
  obtain ⟨p, -, rfl⟩ := map_eq_ok_iff.1 h
  exact ⟨_, by rw [slots?]⟩

theorem exists_slots_of_pathField {t : CommandType} {required : Bool}
    (hkeeps : t.instead? (pathMethod required) = none)
    (h : t.pathFieldTokens required ts = .ok v ts') : ∃ slots, v.slots? = some slots := by
  rw [CommandType.pathFieldTokens, hkeeps] at h
  cases required with
  | true => exact exists_slots_of_path h
  | false =>
    obtain ⟨-, rfl, -⟩ | ⟨-, hpath⟩ := CommandType.optionalPathTokens_eq_ok_iff.1 h
    · exact ⟨[], slots?_none⟩
    · exact exists_slots_of_path (map_eq_ok_iff.2 hpath)

theorem exists_slots_of_restValue {c : Member} {r : RestField CommandType}
    (hforeign : r.kind.foreign? = none) (hkeeps : r.standIn? = none)
    (htexts : ∀ converter, r.kind = .tokens converter → converter = .text)
    {nested : (u : CommandType) → r.kind.target? = some u → TokenReading Value}
    (hnested : ∀ u hu, r.kind = .subcommand u → ∀ {ts ts' : List String} {v : Value},
      nested u hu ts = .ok v ts' → ∃ slots, v.slots? = some slots)
    (h : c.restValue r nested ts = .ok v ts') : ∃ slots, v.slots? = some slots := by
  obtain ⟨name, attr, isRequired, kind⟩ := r
  unfold Command.restValue at h
  cases kind with
  | tokens converter =>
    obtain rfl := htexts converter rfl
    obtain ⟨vs, hvs, rfl⟩ := map_eq_ok_iff.1 h
    rw [convertAll_text] at hvs
    cases hvs
    exact ⟨_, by rw [slots?, TokenSlot.ofItems?_texts]⟩
  | path u =>
    exact exists_slots_of_pathField hkeeps (TokenReading.wrapping_eq_ok_iff.1 h)
  | subcommand u =>
    have hinstead : u.instead? "parse" = none := hkeeps
    dsimp only at h
    rw [hinstead] at h
    exact hnested u rfl rfl (TokenReading.wrapping_eq_ok_iff.1 h)
  | foreign isPath callable => cases hforeign

namespace CommandType

/-- **A value that is read can be written**, where each rest field is read by the method of its type
and the commands make their values by themselves. -/
theorem exists_slots {t : CommandType} (htexts : t.Throughout Command.TakesTexts)
    (hnests : t.Throughout Command.NestsTypes) (hreads : t.Throughout Command.ReadsRest)
    (hmakes : t.Throughout Command.MakesOwn) {ts ts' : List String} {v : Value}
    (h : t.readTokens ts = .ok v ts') : ∃ slots, v.slots? = some slots := by
  obtain ⟨token, ts₀, i, rfl, -, -, -, -, hfields⟩ := readTokens_eq_ok_iff.1 h
  have hmem : t.members.get i ∈ t.members := List.get_mem t.members i
  have hc := htexts.of_mem hmem
  obtain ⟨required, ts₁, optional, ts₂, rest, hrequired, hoptional, hrest, hmake⟩ :=
    Command.fieldTokens_eq_ok_iff.1 hfields
  obtain rfl := Command.eq_of_make (hmakes.of_mem hmem) hmake
  obtain ⟨used₁, -, hslots₁, -⟩ := required_texts hc.required hrequired
  obtain ⟨used₂, -, hslots₂, -⟩ := optional_texts hc.optional hoptional
  have hslots₃ : ∃ slots, fieldSlots? rest = some slots := by
    obtain hr | ⟨r, hr⟩ := Option.eq_none_or_eq_some (t.members.get i).rest
    · obtain ⟨-, rfl, -⟩ := (Command.restTokens_none_eq_ok_iff hr).1 hrest
      exact ⟨[], by rw [fieldSlots?]⟩
    · obtain ⟨-, v, hv, rfl⟩ := (Command.restTokens_some_eq_ok_iff hr).1 hrest
      rw [fieldSlots?_singleton]
      refine exists_slots_of_restValue (hnests.of_mem hmem r hr) (hreads.of_mem hmem r hr)
        (hc.rest r hr) ?_ hv
      intro u hu hkind ts ts' v hv
      have hsub : (t.members.get i).subcommands? = some u := Command.subcommands?_of_rest hr hkind
      have : sizeOf u < sizeOf t := sizeOf_nested_lt hmem (nested?_of_rest hr hu)
      exact exists_slots (htexts.nested hmem hsub) (hnests.nested hmem hsub)
        (hreads.nested hmem hsub) (hmakes.nested hmem hsub) hv
  obtain ⟨slots₃, hslots₃⟩ := hslots₃
  have hall := fieldSlots?_append.2
    ⟨_, _, fieldSlots?_append.2 ⟨_, _, hslots₁, hslots₂, rfl⟩, hslots₃, rfl⟩
  exact ⟨_, by rw [slots?, hall, Option.map_some]⟩
termination_by sizeOf t

end CommandType

end Writable

namespace CommandType

/-! ## The law -/

/-- **Reading a value and writing it are inverse.**  A value that can be written is of a command of
the type, with its fields in the order of the usage.  The tokens that it is written with are read
as the same value; they are as many as those that it has been read from, and where a plain argument
stands they are the same.  And every value can be written, where each rest field is read by the
method of its type and the commands make their values by themselves. -/
theorem parse_slots {t : CommandType} (ht : t.Built) (htexts : t.Throughout Command.TakesTexts)
    (hnests : t.Throughout Command.NestsTypes) {ts : List String} {v : Value}
    (h : t.parse (.ofList ts) = .ok v) :
    (∀ slots, v.slots? = some slots →
      (∃ c ∈ t.members, ∃ fields, v = .command c.id fields ∧ fields.map (·.1) = c.attributes) ∧
      t.parse (.ofList (slots.map TokenSlot.text)) = .ok v ∧ slots.length = ts.length ∧
        ∀ (i : Nat) (token : String), slots[i]? = some (.argument token) → ts[i]? = some token) ∧
    (t.Throughout Command.ReadsRest → t.Throughout Command.MakesOwn →
      ∃ slots, v.slots? = some slots) := by
  obtain ⟨ts', hread⟩ := parse_ofList_eq_ok_iff.1 h
  refine ⟨fun slots hslots => ?_, fun hreads hmakes =>
    exists_slots htexts hnests hreads hmakes hread⟩
  obtain ⟨-, hfits, hagain⟩ := reversible_read ht htexts hnests _ _ _ _ hread hslots
  obtain ⟨c, hc, fields, hmake, hattrs⟩ := exists_make_of_readTokens hread
  exact ⟨⟨c, hc, fields, Command.eq_of_make_of_slots hmake hslots, hattrs⟩,
    parse_ofList_eq_ok_iff.2 ⟨[], hagain⟩, hfits.length_eq,
    fun i token hi => TokenSlot.getElem?_of_fits hfits hi⟩

end CommandType

/-! ## Samples -/

namespace Sample

open CommandType
open Tinygit (declared declaration textField)

/-- A command that takes any words. -/
def tag : CommandType :=
  declared 0 (declaration .command "Tag"
    (some "`tag [words...]` Tag.\n\n# Arguments\nwords: Tags.") [textField "words"] false)

/-- A command that takes a command `tag`. -/
def tagging : CommandType := nesting 1 "Do" "`do [it...]` Do.\n\n# Arguments\nit: Command." tag []

theorem isOrdinary_tagging : Tinygit.IsOrdinary tagging := by
  refine isOrdinary_nesting ?_ (List.forall_mem_nil _)
  refine Tinygit.isOrdinary_declared (Tinygit.takesTexts_of_fields ["words"] rfl)
    (Tinygit.nestsTypes_of_fields ["words"] rfl) ⟨rfl, rfl, rfl, rfl⟩ fun u hu => ?_
  cases hu

/-- A command below another one, with abbreviated names: its arguments stay, and both names are
written in full. -/
theorem parse_slots_tagging : ∃ v, tagging.Built ∧ tagging.Throughout Command.TakesTexts ∧
    tagging.Throughout Command.NestsTypes ∧ tagging.Throughout Command.ReadsRest ∧
    tagging.Throughout Command.MakesOwn ∧ tagging.parse (.ofList ["D", "TA", "x", "y z"]) = .ok v ∧
    v.slots? = some [.name "do", .name "tag", .argument "x", .argument "y z"] ∧
    tagging.parse (.ofList ["do", "tag", "x", "y z"]) = .ok v := by
  obtain ⟨built, htexts, hnests, hbelow, hmakes, -⟩ := isOrdinary_tagging
  have hreads : tagging.Throughout Command.ReadsRest := hbelow.mono fun _ h => h.readsRest
  have hread : (tagging.parse (.ofList ["D", "TA", "x", "y z"])).toOption.bind Value.slots?
      = some [.name "do", .name "tag", .argument "x", .argument "y z"] := by decide +kernel
  obtain ⟨v, hv, hslots⟩ := Option.bind_eq_some_iff.1 hread
  have hparse := except_toOption_eq_some_iff.1 hv
  obtain ⟨-, hagain, -⟩ := (parse_slots built htexts hnests hparse).1 _ hslots
  exact ⟨v, built, htexts, hnests, hreads, hmakes, hparse, hslots, hagain⟩

theorem takesTexts_doing : doing.Throughout Command.TakesTexts := by
  refine Tinygit.throughout_declared (fun m => m.takesTexts fun h => nomatch h) fun u hu => ?_
  obtain rfl := refersTo_nesting_iff hu
  exact Tinygit.throughout_declared (fun m => m.takesTexts fun _ attr a ha => by
    cases List.mem_singleton.1 ha) fun u hu => List.mem_singleton.1 hu ▸ isOrdinary_reader.texts

/-- **A value may hold what is no argument**, and cannot be written then: a member stands in the
place of the reader of the family, and is called with the stream. -/
theorem parse_doing_unwritten : ∃ v, doing.Built ∧ doing.Throughout Command.TakesTexts ∧
    doing.Throughout Command.NestsTypes ∧ doing.parse (.ofList ["do", "read", "x"]) = .ok v ∧
    v.slots? = none := by
  have hread : (doing.parse (.ofList ["do", "read", "x"])).toOption.map (·.slots?.isSome)
      = some false := by decide +kernel
  obtain ⟨v, hv, hslots⟩ := Option.map_eq_some_iff.1 hread
  exact ⟨v, built_doing, takesTexts_doing, nestsTypes_doing, except_toOption_eq_some_iff.1 hv,
    Option.isSome_eq_false_iff.1 hslots |> Option.isNone_iff_eq_none.1⟩

end Sample

end CommandSpec
