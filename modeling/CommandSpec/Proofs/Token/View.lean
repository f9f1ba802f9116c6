import CommandSpec.Token.Stream

/-!
# Proofs/Token/View — a stream as the list of its tokens

What a stream still gives is a list of items, and its operations are those of the list: to look at
the next token is to look at the head (`peek_items`), to take it leaves the tail (`next_items`), and
to take all goes through the list (`drain_items`).  What the source has behind its first end is not
part of the list.  Where no item is refused the list is one of tokens (`Holds`).
-/

namespace CommandSpec.Tokens

variable {s s' : Tokens} {ts : List String}

/-! ## The items of a stream -/

/-- The items that the source still gives before its end. -/
def pending (s : Tokens) : List SourceItem := if s.ended then [] else s.source.headD []

/-- The items that a stream still gives: the token that it has looked at, and those of its
source. -/
def items (s : Tokens) : List SourceItem := s.peeked.toList.map .ok ++ s.pending

/-- The first of some items, if there is one. -/
def first : List SourceItem → Except Misuse (Option String)
  | [] => .ok none
  | item :: _ => item.map some

/-- The first of some items, where the end counts as an error. -/
def popped : List SourceItem → Except Misuse String
  | [] => .error .streamEnded
  | item :: _ => item

/-- What is left when the first item has been looked at: one that is refused is passed over. -/
def looked : List SourceItem → List SourceItem
  | .error _ :: items => items
  | items => items

/-- All tokens up to the first item that is refused, and what is left. -/
def collected : List SourceItem → Except Misuse (List String) × List SourceItem
  | [] => (.ok [], [])
  | .error e :: items => (.error e, items)
  | .ok t :: items => ((collected items).1.map (t :: ·), (collected items).2)

theorem items_of_peeked {token : String} (h : s.peeked = some token) :
    s.items = .ok token :: s.pending := by
  rw [items, h]
  rfl

theorem items_of_not_peeked (h : s.peeked = none) : s.items = s.pending := by
  rw [items, h]
  rfl

theorem items_with_peeked (s : Tokens) (next : Option String) :
    ({ s with peeked := next } : Tokens).items = next.toList.map .ok ++ s.pending := rfl

/-- To ask the source is to take the first of its items. -/
theorem pull_pending (s : Tokens) :
    ∃ s', s.pull = (first s.pending, s') ∧ s'.pending = s.pending.tail ∧
      s'.peeked = s.peeked := by
  obtain ⟨peeked, source, ended⟩ := s
  cases ended with
  | true => exact ⟨_, rfl, rfl, rfl⟩
  | false =>
    match source with
    | [] => exact ⟨_, rfl, rfl, rfl⟩
    | [] :: runs => exact ⟨_, rfl, rfl, rfl⟩
    | (item :: items) :: runs => exact ⟨_, rfl, rfl, rfl⟩

/-- **To take the next token is to take the first item.** -/
theorem next_items (s : Tokens) :
    ∃ s', s.next = (first s.items, s') ∧ s'.items = s.items.tail := by
  rw [next]
  cases hp : s.peeked with
  | some token =>
    rw [items_of_peeked hp]
    exact ⟨{ s with peeked := none }, rfl, rfl⟩
  | none =>
    obtain ⟨s', hpull, hpending, hpeeked⟩ := pull_pending s
    rw [items_of_not_peeked hp]
    exact ⟨s', hpull, by rw [items_of_not_peeked (hpeeked.trans hp), hpending]⟩

/-- To pop the next token is to take the first item, which has to be there. -/
theorem pop_items (s : Tokens) : ∃ s', s.pop = (popped s.items, s') ∧ s'.items = s.items.tail := by
  obtain ⟨s', hnext, hs'⟩ := next_items s
  refine ⟨s', ?_, hs'⟩
  rw [pop, hnext]
  match s.items with
  | [] => rfl
  | .ok _ :: _ => rfl
  | .error _ :: _ => rfl

/-- **To look at the next token is to look at the first item.** -/
theorem peek_items (s : Tokens) :
    ∃ s', s.peek = (first s.items, s') ∧ s'.items = looked s.items := by
  rw [peek]
  cases hp : s.peeked with
  | some token =>
    rw [items_of_peeked hp]
    exact ⟨s, rfl, items_of_peeked hp⟩
  | none =>
    obtain ⟨s', hpull, hpending, hpeeked⟩ := pull_pending s
    dsimp only
    rw [hpull, items_of_not_peeked hp]
    match h : s.pending with
    | [] => exact ⟨_, rfl, by rw [items_with_peeked, hpending, h]; rfl⟩
    | .ok token :: rest => exact ⟨_, rfl, by rw [items_with_peeked, hpending, h]; rfl⟩
    | .error e :: rest =>
      refine ⟨s', rfl, ?_⟩
      rw [items_of_not_peeked (hpeeked.trans hp), hpending, h]
      rfl

theorem drain_of_end (h : s.next = (.ok none, s')) : s.drain = (.ok [], s') := by
  rw [drain]
  split <;> rename_i h' <;> cases h.symm.trans h'
  rfl

theorem drain_of_refused {e : Misuse} (h : s.next = (.error e, s')) :
    s.drain = (.error e, s') := by
  rw [drain]
  split <;> rename_i h' <;> cases h.symm.trans h'
  rfl

theorem drain_of_token {token : String} (h : s.next = (.ok (some token), s')) :
    s.drain = (s'.drain.1.map (token :: ·), s'.drain.2) := by
  rw [drain]
  split <;> rename_i h' <;> cases h.symm.trans h'
  dsimp only
  split <;> next hdrain => rw [hdrain]; rfl

/-- **To take all tokens is to go through the items**, up to one that is refused. -/
theorem drain_items (s : Tokens) :
    ∃ s', s.drain = ((collected s.items).1, s') ∧ s'.items = (collected s.items).2 := by
  generalize hi : s.items = rest
  induction rest generalizing s with
  | nil =>
    obtain ⟨s', hnext, hs'⟩ := next_items s
    rw [hi] at hnext hs'
    exact ⟨s', drain_of_end hnext, hs'⟩
  | cons item rest ih =>
    obtain ⟨s', hnext, hs'⟩ := next_items s
    rw [hi] at hnext hs'
    cases item with
    | error e => exact ⟨s', drain_of_refused hnext, hs'⟩
    | ok token =>
      obtain ⟨s'', hdrain, hs''⟩ := ih s' hs'
      exact ⟨s'', by rw [drain_of_token hnext, hdrain]; rfl, hs''⟩

/-! ## The tokens of a stream -/

/-- **A stream holds some tokens** when these are all that it still gives. -/
def Holds (s : Tokens) (ts : List String) : Prop :=
  s.peeked.toList.map .ok ++ s.pending = ts.map .ok

theorem holds_ofList (ts : List String) : (ofList ts).Holds ts := rfl

theorem holds_iff : s.Holds ts ↔ s.items = ts.map .ok := Iff.rfl

theorem first_map_ok (ts : List String) : first (ts.map .ok) = .ok ts.head? := by
  cases ts <;> rfl

theorem looked_map_ok (ts : List String) : looked (ts.map .ok) = ts.map .ok := by
  cases ts <;> rfl

theorem collected_map_ok (ts : List String) : collected (ts.map .ok) = (.ok ts, []) := by
  induction ts with
  | nil => rfl
  | cons t ts ih =>
    rw [List.map_cons, collected, ih]
    rfl

/-- **To take the next token is to take the head of the list.** -/
theorem Holds.next (h : s.Holds ts) : ∃ s', s.next = (.ok ts.head?, s') ∧ s'.Holds ts.tail := by
  obtain ⟨s', hnext, hs'⟩ := next_items s
  rw [holds_iff.mp h] at hnext hs'
  exact ⟨s', by rw [hnext, first_map_ok], by rw [holds_iff, hs', List.map_tail]⟩

/-- **To look at the next token is to look at the head of the list.** -/
theorem Holds.peek (h : s.Holds ts) : ∃ s', s.peek = (.ok ts.head?, s') ∧ s'.Holds ts := by
  obtain ⟨s', hpeek, hs'⟩ := peek_items s
  rw [holds_iff.mp h] at hpeek hs'
  exact ⟨s', by rw [hpeek, first_map_ok], by rw [holds_iff, hs', looked_map_ok]⟩

/-- **What a stream holds is what it gives**, one token after the other. -/
theorem Holds.drain (h : s.Holds ts) : ∃ s', s.drain = (.ok ts, s') ∧ s'.Holds [] := by
  obtain ⟨s', hdrain, hs'⟩ := drain_items s
  rw [holds_iff.mp h, collected_map_ok] at hdrain hs'
  exact ⟨s', hdrain, hs'⟩

end CommandSpec.Tokens
