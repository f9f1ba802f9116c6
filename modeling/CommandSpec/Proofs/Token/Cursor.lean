import CommandSpec.Proofs.Token.View

/-!
# Proofs/Token/Cursor — a stream is a cursor over the first run of its source

A stream is asked one thing after the other (`run`).  It answers as a cursor over a list does: over
the items that it still gives (`ask_items`), and over tokens alone where no item is refused
(`askItems_map_ok`).  What it gives is what the cursor has passed (`exists_taken`): each token once
and in order, and for each item that is refused one error.  Each law is one of a single question,
and holds for runs of questions by induction.
-/

namespace CommandSpec.Tokens

/-! ## Questions and answers -/

/-- What a stream can be asked for. -/
inductive Op where
  | next | peek | pop
  /-- Whether a token is left. -/
  | more
  /-- All tokens that are left. -/
  | list
  deriving DecidableEq, Repr

/-- What is answered. -/
inductive Answer where
  | next (token : Option String)
  | peek (token : Option String)
  | pop (token : String)
  | more (isLeft : Bool)
  | list (tokens : List String)
  deriving DecidableEq, Repr

/-- How something in a state answers, and the state that it is left in. -/
abbrev Asking (σ : Type) := σ → Op → Except Misuse Answer × σ

section Runs

variable {σ τ : Type}

/-- The answers to one question after the other. -/
def run (ask : Asking σ) (s : σ) : List Op → List (Except Misuse Answer)
  | [] => []
  | op :: ops => (ask s op).1 :: run ask (ask s op).2 ops

/-- The state that is left when all questions have been answered. -/
def after (ask : Asking σ) (s : σ) : List Op → σ
  | [] => s
  | op :: ops => after ask (ask s op).2 ops

variable {ask : Asking σ} {ask' : Asking τ}

/-- **Two that answer every single question alike** answer any number of them alike, and are left
alike. -/
theorem run_eq_of_view (view : σ → τ)
    (h : ∀ s op, ((ask s op).1, view (ask s op).2) = ask' (view s) op) (s : σ) (ops : List Op) :
    run ask s ops = run ask' (view s) ops ∧ view (after ask s ops) = after ask' (view s) ops := by
  induction ops generalizing s with
  | nil => exact ⟨rfl, rfl⟩
  | cons op ops ih =>
    obtain ⟨hrun, hafter⟩ := ih (ask s op).2
    rw [run, run, after, after, ← h]
    exact ⟨congrArg _ hrun, hafter⟩

theorem after_append (s : σ) (ops more : List Op) :
    after ask s (ops ++ more) = after ask (after ask s ops) more := by
  induction ops generalizing s with
  | nil => rfl
  | cons op ops ih => exact ih _

end Runs

/-- A stream answers. -/
def ask : Asking Tokens
  | s, .next => (s.next.1.map .next, s.next.2)
  | s, .peek => (s.peek.1.map .peek, s.peek.2)
  | s, .pop => (s.pop.1.map .pop, s.pop.2)
  | s, .more => (s.peek.1.map (.more ·.isSome), s.peek.2)
  | s, .list => (s.drain.1.map .list, s.drain.2)

/-- **A cursor over tokens** answers, and goes on behind what it has given away. -/
def askTokens : Asking (List String)
  | ts, .next => (.ok (.next ts.head?), ts.tail)
  | ts, .peek => (.ok (.peek ts.head?), ts)
  | [], .pop => (.error .streamEnded, [])
  | t :: ts, .pop => (.ok (.pop t), ts)
  | ts, .more => (.ok (.more !ts.isEmpty), ts)
  | ts, .list => (.ok (.list ts), [])

/-- **A cursor over items** answers; an item that is refused is the answer to what comes to it. -/
def askItems : Asking (List SourceItem)
  | items, .next => ((first items).map .next, items.tail)
  | items, .peek => ((first items).map .peek, looked items)
  | items, .pop => ((popped items).map .pop, items.tail)
  | items, .more => ((first items).map (.more ·.isSome), looked items)
  | items, .list => ((collected items).1.map .list, (collected items).2)

/-- **A stream answers as a cursor over its items**, and is left with the items that the cursor is
left with. -/
theorem ask_items (s : Tokens) (op : Op) :
    ((ask s op).1, (ask s op).2.items) = askItems s.items op := by
  cases op with
  | next =>
    obtain ⟨s', h, hs'⟩ := next_items s
    rw [ask, h, hs', askItems]
  | peek =>
    obtain ⟨s', h, hs'⟩ := peek_items s
    rw [ask, h, hs', askItems]
  | pop =>
    obtain ⟨s', h, hs'⟩ := pop_items s
    rw [ask, h, hs', askItems]
  | more =>
    obtain ⟨s', h, hs'⟩ := peek_items s
    rw [ask, h, hs', askItems]
  | list =>
    obtain ⟨s', h, hs'⟩ := drain_items s
    rw [ask, h, hs', askItems]

/-- Where no item is refused, a cursor over items is one over tokens. -/
theorem askTokens_items (ts : List String) (op : Op) :
    ((askTokens ts op).1, (askTokens ts op).2.map .ok) = askItems (ts.map .ok) op := by
  cases op with
  | list =>
    rw [askItems, collected_map_ok]
    rfl
  | _ => cases ts <;> rfl

/-! ## What a cursor passes -/

/-- The tokens that an answer gives away. -/
def given : Except Misuse Answer → List String
  | .ok (.next token) => token.toList
  | .ok (.pop token) => [token]
  | .ok (.list tokens) => tokens
  | _ => []

/-- The error of the kind of a wrong item. -/
def typeError? {α : Type} : Except Misuse α → Option Misuse
  | .error e => if e.kind = "TypeError" then some e else none
  | .ok _ => none

theorem filterMap_typeError? (e : Misuse) : ([.error e] : List SourceItem).filterMap typeError? =
    (typeError? (.error e : Except Misuse Answer)).toList := by
  rw [List.filterMap_cons, List.filterMap_nil, typeError?, typeError?]
  split <;> next h => rw [h]; rfl

/-- **One question passes over at most one item**: a token that is given away, or an item whose
error is the answer. -/
theorem exists_passed (items : List SourceItem) {op : Op} (hop : op ≠ .list) :
    ∃ passed, items = passed ++ (askItems items op).2 ∧
      given (askItems items op).1 = passed.filterMap Except.toOption ∧
      (typeError? (askItems items op).1).toList = passed.filterMap typeError? := by
  match items, op with
  | [], .next | [], .peek | [], .pop | [], .more => exact ⟨[], rfl, rfl, rfl⟩
  | .ok _ :: _, .peek | .ok _ :: _, .more => exact ⟨[], rfl, rfl, rfl⟩
  | .ok t :: _, .next | .ok t :: _, .pop => exact ⟨[.ok t], rfl, rfl, rfl⟩
  | .error e :: _, .next | .error e :: _, .peek | .error e :: _, .pop | .error e :: _, .more =>
    exact ⟨[.error e], rfl, rfl, (filterMap_typeError? e).symm⟩

/-- **What any number of questions pass over is answered once and in order.** -/
theorem exists_passed_run (items : List SourceItem) {ops : List Op} (hops : .list ∉ ops) :
    ∃ passed, items = passed ++ after askItems items ops ∧
      (run askItems items ops).flatMap given = passed.filterMap Except.toOption ∧
      (run askItems items ops).filterMap typeError? = passed.filterMap typeError? := by
  induction ops generalizing items with
  | nil => exact ⟨[], rfl, rfl, rfl⟩
  | cons op ops ih =>
    obtain ⟨p, hp, hgiven, herrors⟩ := exists_passed items (List.ne_of_not_mem_cons hops).symm
    obtain ⟨q, hq, hgiven', herrors'⟩ :=
      ih (askItems items op).2 (List.not_mem_of_not_mem_cons hops)
    refine ⟨p ++ q, ?_, ?_, ?_⟩
    · rw [after, List.append_assoc, ← hq]
      exact hp
    · rw [run, List.flatMap_cons, hgiven, hgiven', List.filterMap_append]
    · rw [run, List.filterMap_append, ← herrors, ← herrors', List.filterMap_cons]
      cases typeError? (askItems items op).1 <;> rfl

/-- As many questions for the next item as there are items pass over them all. -/
theorem after_next (items : List SourceItem) (n : Nat) :
    after askItems items (List.replicate n .next) = items.drop n := by
  induction n generalizing items with
  | zero => rfl
  | succ n ih =>
    rw [List.replicate_succ, after, ih, askItems, List.drop_tail]

/-! ## A stream over the runs of a source -/

/-- The token that a value is. -/
def token? : Value → Option String
  | .text token => some token
  | _ => none

/-- The error that a value which is no token is refused with. -/
def refusal? : Value → Option Misuse
  | .text _ => none
  | other => some (.tokenNotText other.kindName)

theorem toOption_comp_item : Except.toOption ∘ item = token? := by
  funext v
  cases v with
  | plain d => cases d <;> rfl
  | _ => rfl

theorem typeError?_comp_item : typeError? ∘ item = refusal? := by
  funext v
  cases v with
  | plain d => cases d <;> rfl
  | _ => rfl

theorem items_ofRuns (runs : List (List Value)) :
    (ofRuns runs).items = (runs.headD []).map item := by
  cases runs <;> rfl

theorem ask_ofRuns (runs : List (List Value)) (ops : List Op) :
    run ask (ofRuns runs) ops = run askItems ((runs.headD []).map item) ops ∧
      (after ask (ofRuns runs) ops).items = after askItems ((runs.headD []).map item) ops := by
  rw [← items_ofRuns]
  exact run_eq_of_view items ask_items (ofRuns runs) ops

/-- What is passed over of the first run. -/
theorem exists_passed_ofRuns (runs : List (List Value)) {ops : List Op} (hops : .list ∉ ops) :
    ∃ passed left, runs.headD [] = passed ++ left ∧
      (after ask (ofRuns runs) ops).items = left.map item ∧
      (run ask (ofRuns runs) ops).flatMap given = passed.filterMap token? ∧
      (run ask (ofRuns runs) ops).filterMap typeError? = passed.filterMap refusal? := by
  obtain ⟨hrun, hafter⟩ := ask_ofRuns runs ops
  obtain ⟨p, hp, hgiven, herrors⟩ := exists_passed_run ((runs.headD []).map item) hops
  obtain ⟨passed, left, hvalues, rfl, hleft⟩ := List.map_eq_append_iff.mp hp
  refine ⟨passed, left, hvalues, by rw [hafter, hleft], ?_, ?_⟩
  · rw [hrun, hgiven, List.filterMap_map, toOption_comp_item]
  · rw [hrun, herrors, List.filterMap_map, typeError?_comp_item]

/-- Nothing is left when the next item has been asked for as often as there are items. -/
theorem items_after_next (runs : List (List Value)) {ops : List Op} (hops : .list ∉ ops) {n : Nat}
    (hn : (runs.headD []).length ≤ n) :
    (after ask (ofRuns runs) (ops ++ List.replicate n .next)).items = [] := by
  obtain ⟨p, hp, -⟩ := exists_passed_run ((runs.headD []).map item) hops
  rw [(ask_ofRuns runs _).2, after_append, after_next, List.drop_eq_nil_iff]
  have hlength := congrArg List.length hp
  rw [List.length_map, List.length_append] at hlength
  omega

theorem run_texts (runs : List (List String)) (ops : List Op) :
    run ask (ofRuns (runs.map (·.map .text))) ops = run askTokens (runs.headD []) ops := by
  have hitems : ((runs.map (·.map .text)).headD []).map item = (runs.headD []).map .ok := by
    cases runs with
    | nil => rfl
    | cons texts runs => exact List.map_map
  rw [(ask_ofRuns _ ops).1, hitems]
  exact (run_eq_of_view (List.map Except.ok) askTokens_items _ ops).1.symm

/-- **A stream is a cursor over the first run of its source**, however it is asked.  Over tokens it
is the cursor over the list, and over other values the cursor over the items, where each item that
is refused is the answer to what comes to it.  What has been passed over is answered once and in
order: a token is given away, and an item that is refused is an error.  When the next item has been
asked for often enough, nothing is left. -/
theorem run_eq_cursor :
    (∀ (runs : List (List String)) (ops : List Op),
      run ask (ofRuns (runs.map (·.map .text))) ops = run askTokens (runs.headD []) ops) ∧
    (∀ (runs : List (List Value)) (ops : List Op),
      run ask (ofRuns runs) ops = run askItems ((runs.headD []).map item) ops) ∧
    (∀ (runs : List (List Value)) (ops : List Op), .list ∉ ops →
      ∃ passed left, runs.headD [] = passed ++ left ∧
        (after ask (ofRuns runs) ops).items = left.map item ∧
        (run ask (ofRuns runs) ops).flatMap given = passed.filterMap token? ∧
        (run ask (ofRuns runs) ops).filterMap typeError? = passed.filterMap refusal?) ∧
    ∀ (runs : List (List Value)) (ops : List Op) (n : Nat), .list ∉ ops →
      (runs.headD []).length ≤ n →
      let answers := run ask (ofRuns runs) (ops ++ List.replicate n .next)
      answers.flatMap given = (runs.headD []).filterMap token? ∧
        answers.filterMap typeError? = (runs.headD []).filterMap refusal? := by
  refine ⟨run_texts, fun runs ops => (ask_ofRuns runs ops).1,
    fun runs ops => exists_passed_ofRuns runs, fun runs ops n hops hn => ?_⟩
  have hall : .list ∉ ops ++ List.replicate n .next := by simp [hops]
  obtain ⟨passed, left, hvalues, hleft, hgiven, herrors⟩ := exists_passed_ofRuns runs hall
  obtain rfl : left = [] :=
    List.map_eq_nil_iff.mp (hleft.symm.trans (items_after_next runs hops hn))
  rw [List.append_nil] at hvalues
  rw [hvalues]
  exact ⟨hgiven, herrors⟩

namespace Sample

/-- A source with an item that is no token, and more behind its end. -/
def source : List (List Value) := [[.text "add", .plain (.int 5), .text "file"], [.text "late"]]

/-- Questions that come to the item that is refused. -/
def questions : List Op := [.peek, .more, .next, .peek, .pop]

theorem run_eq_cursor_source :
    .list ∉ questions ∧ (source.headD []).length ≤ 3 ∧
      run ask (ofRuns source) questions = [.ok (.peek (some "add")), .ok (.more true),
        .ok (.next (some "add")), .error (.tokenNotText "int"), .ok (.pop "file")] ∧
      (∃ passed left, source.headD [] = passed ++ left ∧
        (after ask (ofRuns source) questions).items = left.map item ∧
        (run ask (ofRuns source) questions).flatMap given = passed.filterMap token? ∧
        (run ask (ofRuns source) questions).filterMap typeError? = passed.filterMap refusal?) ∧
      (run ask (ofRuns source) (questions ++ List.replicate 3 .next)).flatMap given =
        ["add", "file"] :=
  have hquestions : .list ∉ questions := by decide
  have hlength : (source.headD []).length ≤ 3 := by decide
  ⟨hquestions, hlength, run_eq_cursor.2.1 source questions,
    run_eq_cursor.2.2.1 source questions hquestions,
    (run_eq_cursor.2.2.2 source questions 3 hquestions hlength).1⟩

end Sample

end CommandSpec.Tokens
