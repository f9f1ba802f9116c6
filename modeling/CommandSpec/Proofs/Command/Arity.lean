import CommandSpec.Converters
import CommandSpec.Proofs.Command.Declared
import CommandSpec.Proofs.Tinygit
import Mathlib.Data.Nat.Find

/-!
# Proofs/Command/Arity — which field takes which token

The fields of a command take the tokens by position: the first field the first token, and so on, and
a plain rest field takes those that are left (`Command.taker?`).  So what a command is read as can
be said by counting.  The first token that its taker refuses decides the outcome; where none is
refused, the number of tokens does (`parse_by_position`).
-/

namespace CommandSpec

/-! ## Takers -/

namespace PlainField

/-- The value that a field makes of a token that it accepts. -/
def value (f : PlainField) (token : String) : Value :=
  (f.converter.convert token).1.toOption.getD .none

/-- A field makes a value of a token. -/
def Accepts (f : PlainField) (token : String) : Prop :=
  (f.converter.convert token).1 = .ok (f.value token)

/-- A field makes no value of a token, and says why. -/
def Refuses (f : PlainField) (token : String) (e : Fault) : Prop :=
  (f.converter.convert token).1 = .error e

theorem accepts_or_refuses (f : PlainField) (token : String) :
    f.Accepts token ∨ ∃ e, f.Refuses token e := by
  rw [Accepts, value]
  simp only [Refuses]
  cases (f.converter.convert token).1 with
  | ok v => exact .inl rfl
  | error e => exact .inr ⟨e, rfl⟩

theorem accepts_iff {f : PlainField} {token : String} :
    f.Accepts token ↔ (f.converter.convert token).1.toOption.isSome = true := by
  rw [Accepts, value]
  cases (f.converter.convert token).1 with
  | ok v => exact iff_of_true rfl rfl
  | error e => exact iff_of_false (fun h => nomatch h) (fun h => nomatch h)

instance (f : PlainField) (token : String) : Decidable (f.Accepts token) :=
  decidable_of_iff _ accepts_iff.symm

/-- The values of fields by position; a field without a token has `none`. -/
def described (fs : List PlainField) (ts : List String) : List (String × Value) :=
  fs.mapIdx fun j f => (f.attr, ts[j]?.elim .none f.value)

theorem described_cons (f : PlainField) (fs : List PlainField) (ts : List String) :
    described (f :: fs) ts = (f.attr, ts.head?.elim .none f.value) :: described fs ts.tail := by
  rw [described, List.mapIdx_cons, List.head?_eq_getElem?]
  simp only [described, List.getElem?_tail]

theorem described_append (fs gs : List PlainField) (ts : List String) :
    described (fs ++ gs) ts = described fs ts ++ described gs (ts.drop fs.length) := by
  rw [described, List.mapIdx_append]
  simp only [described, List.getElem?_drop, Nat.add_comm]

theorem map_fst_described :
    ∀ (fs : List PlainField) (ts : List String), (described fs ts).map (·.1) = fs.map (·.attr)
  | [], _ => rfl
  | f :: fs, ts => by
    rw [described_cons, List.map_cons, map_fst_described fs ts.tail, List.map_cons]

end PlainField

/-- Which field takes the token at a position. -/
abbrev Takers := Nat → Option PlainField

namespace Takers

variable {takers : Takers} {ts : List String} {j : Nat} {f : PlainField} {e : Fault}

/-- Every token is accepted by the field that takes it. -/
def AcceptAll (takers : Takers) (ts : List String) : Prop :=
  ∀ k, ∀ f ∈ takers k, ∀ token ∈ ts[k]?, f.Accepts token

theorem acceptAll_iff : takers.AcceptAll ts ↔
    ∀ k < ts.length, ∀ f ∈ takers k, ∀ token ∈ ts[k]?, f.Accepts token :=
  ⟨fun h k _ => h k, fun h k f hf token htoken =>
    h k (List.getElem?_eq_some_iff.1 htoken).1 f hf token htoken⟩

instance (takers : Takers) (ts : List String) : Decidable (takers.AcceptAll ts) :=
  decidable_of_iff _ acceptAll_iff.symm

/-- **The first token that is refused** by the field that takes it stands at a position. -/
structure RefuseAt (takers : Takers) (ts : List String) (j : Nat) (f : PlainField) (e : Fault) :
    Prop where
  taken : takers j = some f
  refused : ∃ token, ts[j]? = some token ∧ f.Refuses token e
  before : ∀ k < j, ∀ f ∈ takers k, ∀ token ∈ ts[k]?, f.Accepts token

/-- Either all tokens are accepted, or there is a first one that is refused. -/
theorem acceptAll_or_refuseAt (takers : Takers) (ts : List String) :
    takers.AcceptAll ts ∨ ∃ j f e, takers.RefuseAt ts j f e := by
  classical
  by_cases h : ∃ k f e, takers k = some f ∧ ∃ token, ts[k]? = some token ∧ f.Refuses token e
  · obtain ⟨f, e, htaken, hrefused⟩ := Nat.find_spec h
    refine .inr ⟨Nat.find h, f, e, htaken, hrefused, fun k hk g hg token htoken => ?_⟩
    exact (g.accepts_or_refuses token).resolve_right fun ⟨e, he⟩ =>
      Nat.find_min h hk ⟨g, e, hg, token, htoken, he⟩
  · refine .inl fun k g hg token htoken => ?_
    exact (g.accepts_or_refuses token).resolve_right
      fun ⟨e, he⟩ => h ⟨k, g, e, hg, token, htoken, he⟩

/-! ### Takers of the tokens that are left -/

/-- What is accepted of all tokens is accepted of those after the first ones. -/
theorem AcceptAll.drop (h : takers.AcceptAll ts) (n : Nat) :
    AcceptAll (fun k => takers (n + k)) (ts.drop n) := by
  intro k f hf token htoken
  rw [List.getElem?_drop] at htoken
  exact h (n + k) f hf token htoken

/-- What is first refused of all tokens is so of those after the first ones. -/
theorem RefuseAt.drop {n : Nat} (h : takers.RefuseAt ts (n + j) f e) :
    RefuseAt (fun k => takers (n + k)) (ts.drop n) j f e where
  taken := h.taken
  refused := by
    obtain ⟨token, htoken, he⟩ := h.refused
    exact ⟨token, by rw [List.getElem?_drop, htoken], he⟩
  before k hk f hf token htoken := by
    rw [List.getElem?_drop] at htoken
    exact h.before (n + k) (by omega) f hf token htoken

/-- A taker that is refused depends on the takers so far. -/
theorem RefuseAt.congr {takers' : Takers} (h : takers.RefuseAt ts j f e)
    (heq : ∀ k ≤ j, takers k = takers' k) : takers'.RefuseAt ts j f e where
  taken := heq j le_rfl ▸ h.taken
  refused := h.refused
  before k hk f hf := h.before k hk f (heq k hk.le ▸ hf)

/-- The first token that is refused is among the first ones, or these are all there and accepted,
and it is the first that is refused of the others. -/
theorem RefuseAt.lt_or_drop (h : takers.RefuseAt ts j f e) (n : Nat) :
    j < n ∨ ∃ k, j = n + k ∧ n < ts.length ∧
      (∀ i < n, ∀ g ∈ takers i, ∀ token ∈ ts[i]?, g.Accepts token) ∧
      RefuseAt (fun k => takers (n + k)) (ts.drop n) k f e := by
  obtain hj | hj := Nat.lt_or_ge j n
  · exact .inl hj
  · obtain ⟨k, rfl⟩ := Nat.exists_eq_add_of_le hj
    obtain ⟨token, htoken, -⟩ := h.refused
    have hlength := (List.getElem?_eq_some_iff.1 htoken).1
    exact .inr ⟨k, rfl, by omega, fun i hi => h.before i (by omega), h.drop⟩

/-- Fields that take the first tokens accept them, if these are accepted. -/
theorem acceptAll_fields {fs : List PlainField} (htakers : ∀ k < fs.length, takers k = fs[k]?)
    (h : ∀ k < fs.length, ∀ f ∈ takers k, ∀ token ∈ ts[k]?, f.Accepts token) :
    AcceptAll (fs[·]?) ts := fun k f hf => by
  have hk : k < fs.length := (List.getElem?_eq_some_iff.1 hf).1
  exact h k hk f ((htakers k hk).trans hf)

end Takers

/-! ## Fields that take a token each -/

namespace TokenReading

open Takers

variable {cmd : FaultPart} {f : PlainField} {fs : List PlainField} {ts : List String}
  {token : String} {e : Fault} {j : Nat}

theorem convert_of_accepts (h : f.Accepts token) :
    convert cmd f.name f.converter token ts = .ok (f.value token) ts := by
  rw [convert, h]
  rfl

theorem convert_of_refuses (h : f.Refuses token e) :
    convert cmd f.name f.converter token ts = .error (.badConvert cmd f.name e) ts := by
  rw [convert, h]
  rfl

/-- What is read by fields that take a token each. -/
structure TakesInTurn (cmd : FaultPart)
    (read : List PlainField → TokenReading (List (String × Value))) : Prop where
  accepts : ∀ {f fs token ts}, f.Accepts token →
    read (f :: fs) (token :: ts) = (((f.attr, f.value token) :: ·) <$> read fs) ts
  refuses : ∀ {f fs token ts e}, f.Refuses token e →
    read (f :: fs) (token :: ts) = .error (.badConvert cmd f.name e) ts

/-- **The first token that is refused ends the reading**, and is the last that is consumed. -/
theorem TakesInTurn.of_refuseAt {read : List PlainField → TokenReading (List (String × Value))}
    (hread : TakesInTurn cmd read) :
    ∀ {fs : List PlainField} {ts : List String} {j : Nat}, RefuseAt (fs[·]?) ts j f e →
      read fs ts = .error (.badConvert cmd f.name e) (ts.drop (j + 1))
  | [], _, _, h => nomatch h.taken
  | _ :: _, [], _, h => by
    obtain ⟨_, htoken, -⟩ := h.refused
    cases htoken
  | g :: fs, token :: ts, 0, h => by
    obtain rfl : g = f := Option.some.inj h.taken
    obtain ⟨_, htoken, he⟩ := h.refused
    cases htoken
    exact hread.refuses he
  | g :: fs, token :: ts, j + 1, h => by
    have hmore : RefuseAt (fs[·]?) ts j f e :=
      ⟨h.taken, h.refused, fun k hk => h.before (k + 1) (Nat.succ_lt_succ hk)⟩
    rw [hread.accepts (h.before 0 (Nat.succ_pos j) g rfl token rfl),
      map_of_error (hread.of_refuseAt hmore)]
    rfl

theorem takesInTurn_required (cmd : FaultPart) : TakesInTurn cmd (required cmd) where
  accepts {f fs token ts} h := by
    rw [required]
    exact bind_of_ok (convert_of_accepts h)
  refuses {f fs token ts e} h := by
    rw [required]
    exact (bind_of_ok rfl).trans (bind_of_error (convert_of_refuses h))

theorem takesInTurn_optional (cmd : FaultPart) : TakesInTurn cmd (optional cmd) where
  accepts {f fs token ts} h := by
    rw [optional]
    exact bind_of_ok (convert_of_accepts h)
  refuses {f fs token ts e} h := by
    rw [optional]
    exact bind_of_error (convert_of_refuses h)

/-- Where tokens run out, the first required field without one is missing. -/
theorem required_of_short :
    ∀ {fs : List PlainField} {ts : List String}, AcceptAll (fs[·]?) ts →
      fs[ts.length]? = some f → required cmd fs ts = .error (.missingRequired cmd f.name) []
  | [], _, _, hf => nomatch hf
  | g :: fs, [], _, hf => by
    obtain rfl : g = f := Option.some.inj hf
    rfl
  | g :: fs, token :: ts, h, hf => by
    have hmore := required_of_short (fun k => h (k + 1)) hf
    rw [(takesInTurn_required cmd).accepts (h 0 g rfl token rfl), map_of_error hmore]

/-- Where each required field has a token, all have their values. -/
theorem required_of_acceptAll :
    ∀ {fs : List PlainField} {ts : List String}, AcceptAll (fs[·]?) ts → fs.length ≤ ts.length →
      required cmd fs ts = .ok (PlainField.described fs ts) (ts.drop fs.length)
  | [], _, _, _ => rfl
  | f :: fs, [], _, hlength => absurd hlength (Nat.not_succ_le_zero _)
  | f :: fs, token :: ts, h, hlength => by
    have hmore := required_of_acceptAll (fun k => h (k + 1)) (Nat.le_of_succ_le_succ hlength)
    rw [(takesInTurn_required cmd).accepts (h 0 f rfl token rfl), map_of_ok hmore,
      PlainField.described_cons]
    rfl

/-- Optional fields have the values of their tokens, or `none`. -/
theorem optional_of_acceptAll :
    ∀ {fs : List PlainField} {ts : List String}, AcceptAll (fs[·]?) ts →
      optional cmd fs ts = .ok (PlainField.described fs ts) (ts.drop fs.length)
  | [], _, _ => rfl
  | f :: fs, [], _ => by
    have hmore : optional cmd fs [] = .ok (PlainField.described fs []) ([].drop fs.length) :=
      optional_of_acceptAll fun _ _ _ _ htoken => nomatch htoken
    rw [List.drop_nil] at hmore
    rw [optional, PlainField.described_cons]
    exact (bind_of_ok rfl).trans (bind_of_ok hmore)
  | f :: fs, token :: ts, h => by
    have hmore := optional_of_acceptAll fun k => h (k + 1)
    rw [(takesInTurn_optional cmd).accepts (h 0 f rfl token rfl), map_of_ok hmore,
      PlainField.described_cons]
    rfl

/-! ## The field that takes the other tokens -/

/-- The first token that is refused ends the reading of those that are left. -/
theorem convertAll_of_refuseAt :
    ∀ {ts : List String} {j : Nat}, RefuseAt (fun _ => some f) ts j f e →
      convertAll cmd f.name f.converter ts = .error (.badConvert cmd f.name e) (ts.drop (j + 1))
  | [], _, h => by
    obtain ⟨_, htoken, -⟩ := h.refused
    cases htoken
  | token :: ts, 0, h => by
    obtain ⟨_, htoken, he⟩ := h.refused
    cases htoken
    rw [convertAll, he]
    rfl
  | token :: ts, j + 1, h => by
    have hmore : RefuseAt (fun _ => some f) ts j f e :=
      ⟨h.taken, h.refused, fun k hk => h.before (k + 1) (Nat.succ_lt_succ hk)⟩
    rw [convertAll, h.before 0 (Nat.succ_pos j) f rfl token rfl, convertAll_of_refuseAt hmore]
    rfl

/-- Where all tokens that are left are accepted, each has its value. -/
theorem convertAll_of_acceptAll :
    ∀ {ts : List String}, AcceptAll (fun _ => some f) ts →
      convertAll cmd f.name f.converter ts = .ok (ts.map f.value) []
  | [], _ => rfl
  | token :: ts, h => by
    rw [convertAll, h 0 f rfl token rfl, convertAll_of_acceptAll fun k => h (k + 1)]
    rfl

end TokenReading

/-! ## The fields of a command -/

namespace Command

variable {c : Member} {ts : List String}

/-- A command whose fields convert their tokens one by one. -/
def IsPlain (c : Member) : Prop := ∀ f ∈ c.fields, f.isPath = false ∧ f.delegates = false

instance (c : Member) : Decidable c.IsPlain :=
  inferInstanceAs (Decidable (∀ f ∈ c.fields, f.isPath = false ∧ f.delegates = false))

/-- A command without a rest field is plain. -/
theorem isPlain_of_rest_eq_none (h : c.rest = none) : c.IsPlain := by
  simp only [IsPlain, fields, h, Option.toList_none, List.map_nil, List.append_nil]
  intro f hf
  rcases List.mem_append.1 hf with hf | hf
  all_goals
    obtain ⟨g, -, rfl⟩ := List.mem_map.1 hf
    exact ⟨rfl, rfl⟩

/-- A rest field that converts its tokens one by one, as a field that takes one. -/
def plainRest? (c : Member) : Option PlainField :=
  match c.rest with
  | some ⟨name, attr, _, .tokens converter⟩ => some ⟨name, attr, converter⟩
  | _ => none

/-- The fields that take a token each. -/
def plain (c : Member) : List PlainField := c.required ++ c.optional

/-- **Which field takes the token at a position** after the name of a command. -/
def taker? (c : Member) : Takers := fun j => c.plain[j]?.or c.plainRest?

/-- The values of the fields of a command, where every token is accepted. -/
def values (c : Member) (ts : List String) : List (String × Value) :=
  PlainField.described c.plain ts ++
    c.plainRest?.toList.map fun f => (f.attr, .tuple ((ts.drop c.plain.length).map f.value))

theorem taker?_of_lt {k : Nat} (h : k < c.plain.length) : c.taker? k = c.plain[k]? := by
  rw [taker?, List.getElem?_eq_getElem h, Option.some_or]

theorem taker?_add_length (c : Member) (k : Nat) :
    c.taker? (c.plain.length + k) = c.plainRest? := by
  rw [taker?, List.getElem?_eq_none (Nat.le_add_right _ k), Option.none_or]

theorem exists_of_plainRest? {f : PlainField} (h : c.plainRest? = some f) :
    ∃ r, c.rest = some r ∧ r.kind = .tokens f.converter ∧ r.name = f.name ∧ r.attr = f.attr := by
  unfold plainRest? at h
  split at h
  · next hr =>
    cases h
    exact ⟨_, hr, rfl, rfl, rfl⟩
  · cases h

/-- The rest field of a plain command converts its tokens one by one. -/
theorem exists_plainRest? (hplain : c.IsPlain) {r : RestField CommandType}
    (hr : c.rest = some r) :
    ∃ f, c.plainRest? = some f ∧ r.kind = .tokens f.converter ∧ r.name = f.name ∧
      r.attr = f.attr := by
  obtain ⟨name, attr, isRequired, kind⟩ := r
  rw [IsPlain, fields, hr] at hplain
  obtain ⟨hpath, hdelegates⟩ := hplain _ (List.mem_append_right _ (List.mem_singleton_self _))
  cases kind with
  | tokens converter => exact ⟨⟨name, attr, converter⟩, by rw [plainRest?, hr], rfl, rfl, rfl⟩
  | path u => cases hpath
  | subcommand u => cases hdelegates
  | foreign isPath callable =>
    cases isPath
    · cases hdelegates
    · cases hpath

/-- Values of the fields that take a token each. -/
def plainTokens (c : Member) : TokenReading (List (String × Value)) := do
  let required ← TokenReading.required c.called c.required
  let optional ← TokenReading.optional c.called c.optional
  return required ++ optional

theorem fieldTokens_eq (c : Member)
    (nested : (u : CommandType) → c.nested? = some u → TokenReading Value) :
    c.fieldTokens nested = (do
      let plain ← c.plainTokens
      let rest ← c.restTokens nested
      TokenReading.check Misuse.fault (c.make (plain ++ rest))) := by
  rw [fieldTokens, plainTokens]
  simp only [bind_assoc, pure_bind]

open TokenReading Takers

variable {f : PlainField} {e : Fault} {j : Nat}

theorem plain_of_lt {k : Nat} (h : k < c.required.length) : c.plain[k]? = c.required[k]? :=
  List.getElem?_append_left h

theorem plain_add_length (c : Member) (k : Nat) :
    c.plain[c.required.length + k]? = c.optional[k]? := by
  rw [plain, List.getElem?_append_right (Nat.le_add_right _ k), Nat.add_sub_cancel_left]

theorem plainTokens_of_refuseAt (h : RefuseAt (c.plain[·]?) ts j f e) :
    c.plainTokens ts = .error (.badConvert c.called f.name e) (ts.drop (j + 1)) := by
  rw [plainTokens]
  obtain hj | ⟨k, rfl, hlength, hbefore, hmore⟩ := h.lt_or_drop c.required.length
  · have hrequired : RefuseAt (c.required[·]?) ts j f e :=
      h.congr fun k hk => plain_of_lt (by omega)
    exact bind_of_error ((takesInTurn_required _).of_refuseAt hrequired)
  · have hrequired : AcceptAll (c.required[·]?) ts :=
      acceptAll_fields (fun _ => plain_of_lt) hbefore
    have hoptional : RefuseAt (c.optional[·]?) (ts.drop c.required.length) k f e :=
      hmore.congr fun i _ => c.plain_add_length i
    rw [bind_of_ok (required_of_acceptAll hrequired hlength.le),
      bind_of_error ((takesInTurn_optional _).of_refuseAt hoptional), List.drop_drop, Nat.add_assoc]

theorem acceptAll_required (h : AcceptAll (c.plain[·]?) ts) : AcceptAll (c.required[·]?) ts :=
  acceptAll_fields (fun _ => plain_of_lt) fun k _ => h k

theorem plainTokens_of_short (h : AcceptAll (c.plain[·]?) ts)
    (hlength : ts.length < c.required.length) :
    c.plainTokens ts
      = .error (.missingRequired c.called c.required[ts.length].name) [] := by
  rw [plainTokens]
  exact bind_of_error (required_of_short (acceptAll_required h) (List.getElem?_eq_getElem hlength))

theorem plainTokens_of_acceptAll (h : AcceptAll (c.plain[·]?) ts)
    (hlength : c.required.length ≤ ts.length) :
    c.plainTokens ts = .ok (PlainField.described c.plain ts) (ts.drop c.plain.length) := by
  have hoptional : AcceptAll (c.optional[·]?) (ts.drop c.required.length) := fun i g hg =>
    h.drop c.required.length i g ((c.plain_add_length i).trans hg)
  rw [plainTokens, bind_of_ok (required_of_acceptAll (acceptAll_required h) hlength),
    bind_of_ok (optional_of_acceptAll hoptional), plain, PlainField.described_append,
    List.length_append, ← List.drop_drop]
  rfl

/-! ### The rest of the tokens -/

variable {nested : (u : CommandType) → c.nested? = some u → TokenReading Value}

/-- A plain rest field takes what is left, unless it needs a token and there is none. -/
theorem restTokens_of_plain {r : RestField CommandType} (hr : c.rest = some r)
    (hkind : r.kind = .tokens f.converter) (hname : r.name = f.name) (hattr : r.attr = f.attr) :
    c.restTokens nested ts =
      if ts = [] ∧ r.required = true then .error (.missingRequired c.called r.name) []
      else ((fun vs => [(f.attr, .tuple vs)]) <$>
        convertAll c.called f.name f.converter) ts := by
  rw [restTokens_eq_of_some hr]
  obtain ⟨name, attr, isRequired, kind⟩ := r
  obtain rfl : kind = .tokens f.converter := hkind
  obtain rfl : name = f.name := hname
  obtain rfl : attr = f.attr := hattr
  rw [restValue]
  dsimp only
  rw [Functor.map_map]

theorem length_required_le (c : Member) : c.required.length ≤ c.plain.length := by
  rw [plain, List.length_append]
  exact Nat.le_add_right _ _

/-- **The first token that is refused decides the outcome.** -/
theorem fieldTokens_of_refuseAt (h : RefuseAt c.taker? ts j f e) :
    c.fieldTokens nested ts = .error (.badConvert c.called f.name e) (ts.drop (j + 1)) := by
  rw [fieldTokens_eq]
  obtain hj | ⟨k, rfl, hlength, hbefore, hmore⟩ := h.lt_or_drop c.plain.length
  · exact bind_of_error (plainTokens_of_refuseAt (h.congr fun k hk => taker?_of_lt (by omega)))
  have hplain : AcceptAll (c.plain[·]?) ts := acceptAll_fields (fun _ => taker?_of_lt) hbefore
  have hf : c.plainRest? = some f := (c.taker?_add_length k).symm.trans h.taken
  have hrest : RefuseAt (fun _ => some f) (ts.drop c.plain.length) k f e :=
    hmore.congr fun i _ => (c.taker?_add_length i).trans hf
  have hne : ts.drop c.plain.length ≠ [] := List.drop_eq_nil_iff.not.2 (Nat.not_le_of_lt hlength)
  obtain ⟨r, hr, hkind, hname, hattr⟩ := exists_of_plainRest? hf
  rw [bind_of_ok (plainTokens_of_acceptAll hplain (c.length_required_le.trans hlength.le))]
  refine bind_of_error ?_
  rw [restTokens_of_plain hr hkind hname hattr, if_neg fun hnil => hne hnil.1,
    map_of_error (convertAll_of_refuseAt hrest), List.drop_drop, Nat.add_assoc]

theorem acceptAll_plain (h : AcceptAll c.taker? ts) : AcceptAll (c.plain[·]?) ts :=
  acceptAll_fields (fun _ => taker?_of_lt) fun k _ => h k

/-- Where tokens run out, the first required field without one is missing. -/
theorem fieldTokens_of_short (h : AcceptAll c.taker? ts) (hlength : ts.length < c.required.length) :
    c.fieldTokens nested ts
      = .error (.missingRequired c.called c.required[ts.length].name) [] := by
  rw [fieldTokens_eq]
  exact bind_of_error (plainTokens_of_short (acceptAll_plain h) hlength)

/-- A rest field that needs a token is missing where none is left. -/
theorem fieldTokens_of_missing (h : AcceptAll c.taker? ts) (hplain : c.IsPlain)
    {r : RestField CommandType} (hr : c.rest = some r) (hrequired : r.required = true)
    (hleast : c.required.length ≤ ts.length) (hmost : ts.length ≤ c.plain.length) :
    c.fieldTokens nested ts = .error (.missingRequired c.called r.name) [] := by
  obtain ⟨f, -, hkind, hname, hattr⟩ := exists_plainRest? hplain hr
  rw [fieldTokens_eq, bind_of_ok (plainTokens_of_acceptAll (acceptAll_plain h) hleast)]
  refine bind_of_error ?_
  rw [restTokens_of_plain hr hkind hname hattr, if_pos ⟨List.drop_eq_nil_iff.2 hmost, hrequired⟩]

/-- Without a rest field, the first token that no field takes is one too many. -/
theorem fieldTokens_of_trailing (h : AcceptAll c.taker? ts) (hr : c.rest = none)
    (hlength : c.plain.length < ts.length) :
    c.fieldTokens nested ts = .error (.trailingArgument c.called ts[c.plain.length])
      (ts.drop (c.plain.length + 1)) := by
  have hleast : c.required.length ≤ ts.length := c.length_required_le.trans hlength.le
  rw [fieldTokens_eq, bind_of_ok (plainTokens_of_acceptAll (acceptAll_plain h) hleast),
    List.drop_eq_getElem_cons hlength]
  refine bind_of_error ?_
  rw [restTokens_of_none hr]
  rfl

/-- **In every other case the value is made of what the tokens are converted to.** -/
theorem fieldTokens_of_acceptAll (h : AcceptAll c.taker? ts) (hplain : c.IsPlain)
    (hleast : c.required.length ≤ ts.length) (hmost : c.rest = none → ts.length ≤ c.plain.length)
    (hrest : ∀ r ∈ c.rest, r.required = true → c.plain.length < ts.length) :
    c.fieldTokens nested ts = TokenReading.check Misuse.fault (c.make (c.values ts)) [] := by
  rw [fieldTokens_eq, bind_of_ok (plainTokens_of_acceptAll (acceptAll_plain h) hleast)]
  obtain hr | ⟨r, hr⟩ := Option.eq_none_or_eq_some c.rest
  · have hplain : c.plainRest? = none := by rw [plainRest?, hr]
    rw [List.drop_eq_nil_iff.2 (hmost hr), restTokens_of_none hr, values, hplain]
    rfl
  · obtain ⟨f, hf, hkind, hname, hattr⟩ := exists_plainRest? hplain hr
    have hmore : AcceptAll (fun _ => some f) (ts.drop c.plain.length) := fun i g hg =>
      h.drop c.plain.length i g (((c.taker?_add_length i).trans hf).trans hg)
    have hpresent : ¬ (ts.drop c.plain.length = [] ∧ r.required = true) := fun ⟨hnil, hrequired⟩ =>
      absurd (hrest r hr hrequired) (Nat.not_lt_of_le (List.drop_eq_nil_iff.1 hnil))
    have hread : c.restTokens nested (ts.drop c.plain.length)
        = .ok [(f.attr, .tuple ((ts.drop c.plain.length).map f.value))] [] := by
      rw [restTokens_of_plain hr hkind hname hattr, if_neg hpresent,
        map_of_ok (convertAll_of_acceptAll hmore)]
    rw [bind_of_ok hread, values, hf]
    rfl

/-- There is a value for each field, in the order of the usage. -/
theorem map_fst_values (c : Member) (hplain : c.IsPlain) (ts : List String) :
    (c.values ts).map (·.1) = c.attributes := by
  rw [attributes_eq, values, List.map_append, PlainField.map_fst_described, plain, List.map_append]
  congr 1
  obtain hr | ⟨r, hr⟩ := Option.eq_none_or_eq_some c.rest
  · rw [plainRest?, hr]
    rfl
  · obtain ⟨f, hf, -, -, hattr⟩ := exists_plainRest? hplain hr
    rw [hf, hr]
    simp [hattr]

end Command

/-! ## The law -/

namespace CommandType

variable {t : CommandType} {token : String} {c : Member}

/-- **A command is read by position.**  The first token that is refused by the field that takes it
decides the outcome.  Where none is, there may be too few tokens for the required fields, none for a
rest field that needs one, or too many without a rest field; and in every other case the value is
made of the values of the tokens: by the command, or by what its body has for what makes values. -/
theorem parse_by_position (ht : Built t) (h : t.ResolvesTo token c) (hplain : c.IsPlain)
    (ts : List String) :
    (∀ j f e, Takers.RefuseAt c.taker? ts j f e →
      t.parse (.ofList (token :: ts)) = .error (.badConvert c.name f.name e)) ∧
    (¬ Takers.AcceptAll c.taker? ts → ∃ j f e, Takers.RefuseAt c.taker? ts j f e) ∧
    (Takers.AcceptAll c.taker? ts →
      (∀ hshort : ts.length < c.required.length, t.parse (.ofList (token :: ts))
        = .error (.missingRequired c.name c.required[ts.length].name)) ∧
      (∀ r ∈ c.rest, r.required = true → c.required.length ≤ ts.length →
        ts.length ≤ c.required.length + c.optional.length →
        t.parse (.ofList (token :: ts)) = .error (.missingRequired c.name r.name)) ∧
      (c.rest = none → ∀ hlong : c.required.length + c.optional.length < ts.length,
        t.parse (.ofList (token :: ts)) = .error
          (.trailingArgument c.name ts[c.required.length + c.optional.length])) ∧
      (c.required.length ≤ ts.length →
        (c.rest = none → ts.length ≤ c.required.length + c.optional.length) →
        (∀ r ∈ c.rest, r.required = true → c.required.length + c.optional.length < ts.length) →
        (c.IsFree → t.parse (.ofList (token :: ts)) = .ok (.command c.id (c.values ts))) ∧
        (∀ u, (single c).maker = .type u → t.parse (.ofList (token :: ts))
          = (u.call [(single c).value] (c.values ts)).mapError Misuse.fault) ∧
        ∀ kind, (single c).maker = .uncallable kind → Command.makerName ∉ c.attributes →
          t.parse (.ofList (token :: ts)) = .error (Misuse.notCallable kind).fault)) := by
  have hcalled : c.called = c.name := (ht.isDeclared c h.mem).called_eq
  have hlength : c.plain.length = c.required.length + c.optional.length := List.length_append
  rw [ht.parse_of_resolvesTo h, ← hcalled]
  simp only [← hlength]
  refine ⟨fun j f e hj => ?_, (c.taker?.acceptAll_or_refuseAt ts).resolve_left, fun hall =>
    ⟨fun hshort => ?_, fun r hr hrequired hleast hmost => ?_, fun hr hlong => ?_,
      fun hleast hmost hrest => ?_⟩⟩
  · rw [Command.fieldTokens_of_refuseAt hj]
    rfl
  · rw [Command.fieldTokens_of_short hall hshort]
    rfl
  · rw [Command.fieldTokens_of_missing hall hplain hr hrequired hleast hmost]
    rfl
  · rw [Command.fieldTokens_of_trailing hall hr hlong]
    rfl
  · rw [Command.fieldTokens_of_acceptAll hall hplain hleast hmost hrest, TokenReading.outcome_check]
    refine ⟨fun hfree => ?_, fun u hu => ?_, fun kind hkind _ => ?_⟩
    · rw [Command.make_eq hfree fun f hf => c.map_fst_values hplain ts ▸ List.mem_map_of_mem hf]
      rfl
    · rw [Command.make_of_type hu]
    · rw [Command.make_of_uncallable hkind]
      rfl

/-- Where each field takes one token, and there is one for each, the outcome is that of making the
value. -/
theorem Built.parse_of_exact (ht : Built t) (h : t.ResolvesTo token c) (hrest : c.rest = none)
    (ts : List String) (hlength : c.required.length = ts.length)
    (hall : Takers.AcceptAll c.taker? ts) :
    t.parse (.ofList (token :: ts)) = (c.make (c.values ts)).mapError Misuse.fault := by
  have hmost : ts.length ≤ c.plain.length := hlength ▸ c.length_required_le
  rw [ht.parse_of_resolvesTo h, Command.fieldTokens_of_acceptAll hall
    (Command.isPlain_of_rest_eq_none hrest) hlength.le (fun _ => hmost)
    (fun r hr => nomatch hrest.symm.trans hr), TokenReading.outcome_check]

end CommandType

/-! ## Samples -/

namespace Sample

open CommandType
open Tinygit (declared declaration textField)

/-- A command that takes numbers. -/
def sum : CommandType :=
  let number (attr : String) : String × BodyEntry := (attr, .field ⟨.function .int, false⟩)
  declared 0 (declaration .command "Sum"
    (some "`sum <a> [b] [c...]` Add.\n\n# Arguments\na: One.\nb: Two.\nc: More.")
    [number "a", number "b", number "c"] false)

theorem built_sum : Built sum := by
  refine Tinygit.built_declared fun u hu => ?_
  cases hu

/-- What is seen of its command: which field takes which token, and which tokens are refused. -/
theorem exists_resolvesTo_sum : ∃ c, sum.ResolvesTo "sum" c ∧ c.name = "sum" ∧ c.IsPlain ∧
    c.IsFree ∧
    c.required.map (·.name) = ["a"] ∧ (∀ r ∈ c.rest, r.required = false) ∧
    (c.values ["1"]).map (fun f => (f.1, f.2.shown)) = [("a", "1"), ("b", "None"), ("c", "()")] ∧
    Takers.AcceptAll c.taker? ["1", "2"] ∧
    ∃ f e, c.taker? 2 = some f ∧ f.name = "c" ∧ f.Refuses "x" e := by
  have hfacts : sum.members ≠ [] ∧ ∀ c ∈ sum.members, c.name = "sum" ∧ c.IsPlain ∧
      c.IsFree ∧ c.required.map (·.name) = ["a"] ∧ (∀ r ∈ c.rest, r.required = false) ∧
      (c.values ["1"]).map (fun f => (f.1, f.2.shown)) = [("a", "1"), ("b", "None"), ("c", "()")] ∧
      Takers.AcceptAll c.taker? ["1", "2"] ∧ (c.taker? 2).map (·.name) = some "c" ∧
      ∀ f ∈ c.taker? 2, ¬ f.Accepts "x" := by
    decide +kernel
  obtain ⟨c, hc, hname, hplain, hfree, hrequired, hrest, hvalues, haccept, hthird, hrefuses⟩ :=
    built_sum.exists_resolvesTo hfacts
  obtain ⟨f, hf, hfname⟩ := Option.map_eq_some_iff.1 hthird
  obtain ⟨e, he⟩ := (f.accepts_or_refuses "x").resolve_left (hrefuses f hf)
  exact ⟨c, hc, hname, hplain, hfree, hrequired, hrest, hvalues, haccept, f, e, hf, hfname, he⟩

/-- `sum` refuses the first token that is no number, misses the first token of all, and takes a
single one with no others. -/
theorem parse_by_position_sum : ∃ c, Built sum ∧ sum.ResolvesTo "sum" c ∧ c.IsPlain ∧
    (∃ e, sum.parse (.ofList ["sum", "1", "2", "x", "y"]) = .error (.badConvert "sum" "c" e)) ∧
    sum.parse (.ofList ["sum"]) = .error (.missingRequired "sum" "a") ∧
    ∃ fields, sum.parse (.ofList ["sum", "1"]) = .ok (.command c.id fields) ∧
      fields.map (fun f => (f.1, f.2.shown)) = [("a", "1"), ("b", "None"), ("c", "()")] := by
  obtain ⟨c, hc, hname, hplain, hfree, hrequired, hrest, hvalues, haccept, f, e, hf, hfname, he⟩ :=
    exists_resolvesTo_sum
  obtain ⟨first, more, hfirst, hfirstName, hmore⟩ := List.map_eq_cons_iff.1 hrequired
  obtain rfl := List.map_eq_nil_iff.1 hmore
  have hlaw := parse_by_position built_sum hc hplain
  refine ⟨c, built_sum, hc, hplain, ⟨e, ?_⟩, ?_, c.values ["1"], ?_, hvalues⟩
  · have hrefuse : Takers.RefuseAt c.taker? ["1", "2", "x", "y"] 2 f e := by
      refine ⟨hf, ⟨"x", rfl, he⟩, fun k hk => ?_⟩
      obtain rfl | rfl : k = 0 ∨ k = 1 := by omega
      · exact haccept 0
      · exact haccept 1
    rw [(hlaw _).1 2 f e hrefuse, hname, hfname]
  · have hmissing := ((hlaw []).2.2 fun _ _ _ _ h => nomatch h).1 (by simp [hfirst])
    simpa [hfirst, hfirstName, hname] using hmissing
  · have hone : Takers.AcceptAll c.taker? ["1"] := fun k f hf token htoken => by
      obtain ⟨hk, -⟩ := List.getElem?_eq_some_iff.1 htoken
      obtain rfl : k = 0 := Nat.lt_one_iff.1 hk
      exact haccept 0 f hf token htoken
    refine (((hlaw ["1"]).2.2 hone).2.2.2 (by simp [hfirst]) (by simp [hfirst]) ?_).1 hfree
    intro r hr hpresent
    rw [hrest r hr] at hpresent
    cases hpresent

/-- A command whose body holds a number for what makes its values. -/
def unmade : CommandType :=
  declared 0 (declaration .command "Run" (some "`run` Run.")
    [(Command.makerName, .constant (.int 5))] false)

theorem built_unmade : Built unmade := by
  refine Tinygit.built_declared fun u hu => ?_
  cases hu

/-- Why a value cannot be made: the kind of the error, and its message. -/
def unmadeBy (c : Member) (fields : List (String × Value)) : Option (String × String) :=
  match c.make fields with
  | .ok _ => none
  | .error m => some (m.kind, m.message)

theorem mapError_of_unmadeBy {c : Member} {fields : List (String × Value)} {kind message : String}
    (h : unmadeBy c fields = some (kind, message)) :
    (c.make fields).mapError Misuse.fault = .error (.foreign kind message) := by
  rw [unmadeBy] at h
  cases hmake : c.make fields with
  | ok v =>
    rw [hmake] at h
    cases h
  | error m =>
    rw [hmake] at h
    cases h
    rfl

/-- **Not every value can be made**, although no token is missing, refused or left: something else
may stand in the place of what makes values. -/
theorem parse_unmade : ∃ c, Built unmade ∧ unmade.ResolvesTo "run" c ∧ c.IsPlain ∧ c.rest = none ∧
    c.required.length = 0 ∧
    unmade.parse (.ofList ["run"])
      = .error (.foreign "TypeError" "'int' object is not callable") := by
  have hfacts : unmade.members ≠ [] ∧ ∀ c ∈ unmade.members, c.name = "run" ∧
      c.rest.isNone = true ∧ c.required.length = 0 ∧
      unmadeBy c (c.values []) = some ("TypeError", "'int' object is not callable") := by
    decide +kernel
  obtain ⟨c, hc, -, hrest, hrequired, hfault⟩ := built_unmade.exists_resolvesTo hfacts
  rw [Option.isNone_iff_eq_none] at hrest
  have hall : Takers.AcceptAll c.taker? [] := fun _ _ _ _ h => nomatch h
  exact ⟨c, built_unmade, hc, Command.isPlain_of_rest_eq_none hrest, hrest, hrequired,
    (built_unmade.parse_of_exact hc hrest [] hrequired hall).trans (mapError_of_unmadeBy hfault)⟩

end Sample

end CommandSpec
