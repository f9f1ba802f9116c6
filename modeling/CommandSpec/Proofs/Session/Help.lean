import CommandSpec.Proofs.Command.Paths
import CommandSpec.Session.Help

/-!
# Proofs/Session/Help — what a session is asked for help with

Help is asked with a path, with an id, or with a source that gives texts (`Session.Gives`): a line,
a list, a stream that is read on, or the first run of a generator.  Where nothing stands in a type
in the place of help, a path is followed (`Step.topicFor_of_path`), an id is the path of it alone,
and texts are parsed as a path first (`Step.exists_topicFor_of_gives`).
-/

namespace CommandSpec

open CommandType

theorem CommandType.helpFault?_eq_none {t : CommandType} (h : t.instead? "help" = none)
    (target : Value) : t.helpFault? target = none := by
  rw [helpFault?, h, Option.map_none]

/-- Texts as a list. -/
def Datum.texts (ts : List String) : Datum := .list (ts.map .text)

namespace Session

variable {s : Session} {source : Source} {v : Value} {ts : List String}

/-- **A source gives some texts**: they are all that comes before its end. -/
inductive Gives (s : Session) : Source → Value → List String → Prop
  /-- A line, a list, or whatever else has texts for items. -/
  | items {source : Source} {v : Value} {tokens : Tokens} {ts : List String}
    (hsource : ∀ runs, source ≠ .runs runs) (hstream : s.stream? v = none)
    (hroute : s.route? v = none) (htokens : s.tokensOver v = .ok tokens) (h : tokens.Holds ts) :
    Gives s source v ts
  /-- A stream that the session keeps, from where it is. -/
  | stream {source : Source} {serial : Nat} {cells : StreamCells} {tokens : Tokens}
    {ts : List String} (hsource : ∀ runs, source ≠ .runs runs)
    (hcells : s.streams.lookup serial = some cells) (htokens : cells.tokens? = .ok tokens)
    (h : tokens.Holds ts) : Gives s source (.thing Tokens.kindName serial) ts
  /-- Runs of items: the first is all that is read. -/
  | runs {runs : List (List Datum)} {ts : List String} (h : runs.headD [] = ts.map .text) :
    Gives s (.runs runs) (.thing "generator" 0) ts

theorem tokensOver_texts (s : Session) (ts : List String) :
    s.tokensOver (.plain (.texts ts)) = .ok (.ofList ts) := by
  show Tokens.of? (.plain (.texts ts)) = _
  simp [Tokens.of?, Tokens.wrap?, Datum.texts, Tokens.ofItems, Tokens.ofRuns, Tokens.ofList,
    Tokens.item, Function.comp_def]

theorem gives_texts (s : Session) (ts : List String) :
    s.Gives (.value (.texts ts)) (.plain (.texts ts)) ts :=
  .items nofun rfl rfl (s.tokensOver_texts ts) (Tokens.holds_ofList ts)

theorem gives_line (s : Session) (line : String) :
    s.Gives (.value (.text line)) (.text line) (Token.split line) :=
  .items nofun rfl rfl rfl (Tokens.holds_ofList _)

theorem holds_ofRuns {runs : List (List Datum)} (h : runs.headD [] = ts.map .text) :
    (Tokens.ofRuns (runs.map (·.map .plain))).Holds ts := by
  have hitems : ((runs.map (·.map Value.plain)).map (·.map Tokens.item)).headD [] =
      (runs.headD []).map (Tokens.item ∘ Value.plain) := by
    cases runs with
    | nil => rfl
    | cons items runs => exact List.map_map
  show [] ++ ((runs.map (·.map Value.plain)).map (·.map Tokens.item)).headD [] = ts.map .ok
  rw [List.nil_append, hitems, h, List.map_map]
  rfl

end Session

namespace Step

open Session (Gives)

variable {t : CommandType} {s : Session} {source : Source} {v : Value} {ts : List String}

/-- A step that looks at the session goes on at it. -/
theorem get_bind {α : Type} (next : Session → Step α) (s : Session) :
    ((get : Step Session) >>= next) s = next s s := rfl

/-! ## Texts that are parsed as a path -/

/-- A path is run over tokens as it is parsed from them. -/
theorem exists_run_readPath (t : CommandType) (tokens : Tokens) (s : Session) :
    ∃ left s', run t.readPath tokens s = .ok (t.parsePath tokens, left) s' := by
  rw [run, CommandType.parsePath]
  cases t.readPath ⟨tokens, []⟩ <;> exact ⟨_, _, rfl⟩

theorem readSource_eq (hsource : ∀ runs, source ≠ .runs runs) :
    readSource t source v t.readPath = readFrom t v t.readPath := by
  cases source with
  | runs runs => exact absurd rfl (hsource runs)
  | _ => rfl

/-- **A source is read as the list of the texts that it gives.** -/
theorem exists_readSource (t : CommandType) (h : s.Gives source v ts) :
    ∃ s', readSource t source v t.readPath s = .ok (t.parsePath (.ofList ts)) s' := by
  rw [parsePath_ofList]
  cases h with
  | @items _ _ tokens _ hsource hstream hroute htokens h =>
    obtain ⟨left, s', hrun⟩ := exists_run_readPath t tokens s
    have htaken : ofMisuse (s.tokensOver v) s = .ok tokens s := by
      rw [htokens]
      rfl
    have hfrom : readFrom t v t.readPath s = (ofMisuse (s.tokensOver v) >>= fun tokens => do
        return (← run t.readPath tokens).1) s := by
      rw [readFrom, get_bind, hstream]
      cases Session.streamSerial? v <;> rfl
    refine ⟨s', ?_⟩
    rw [readSource_eq hsource, hfrom, bind_of_ok htaken, bind_of_ok hrun, ← parsePath_of_holds t h]
    rfl
  | @stream _ serial cells tokens _ hsource hcells htokens h =>
    obtain ⟨left, s', hrun⟩ := exists_run_readPath t tokens s
    have hstream : s.stream? (.thing Tokens.kindName serial) = some cells := hcells
    have hserial : Session.streamSerial? (.thing Tokens.kindName serial) = some serial := rfl
    refine ⟨{ s' with streams := Session.replacing serial (cells.after left) s'.streams }, ?_⟩
    rw [readSource_eq hsource, readFrom, get_bind, hstream, hserial]
    dsimp only
    rw [htokens]
    dsimp only
    rw [bind_of_ok hrun, ← parsePath_of_holds t h]
    rfl
  | @runs runs _ h =>
    obtain ⟨left, s', hrun⟩ := exists_run_readPath t (.ofRuns (runs.map (·.map .plain))) s
    refine ⟨s', ?_⟩
    rw [← parsePath_of_holds t (Session.holds_ofRuns h)]
    exact (bind_of_ok hrun).trans rfl

/-- **A session that is asked for the topic of some texts** parses them as a path and gives the
topic of that path, where nothing stands in the place of the reader of paths. -/
theorem exists_topicOfTokens (hreader : t.instead? "parse_path" = none)
    (h : s.Gives source v ts) :
    ∃ s', topicOfTokens t source v s = ofFault (t.parsePath (.ofList ts) >>= t.topicOf) s' := by
  obtain ⟨s', hread⟩ := exists_readSource t h
  refine ⟨s', ?_⟩
  rw [topicOfTokens, hreader]
  dsimp only
  rw [bind_of_ok hread]
  cases t.parsePath (.ofList ts) <;> rfl

/-! ## What help is asked with -/

section Help

variable (hhelp : t.instead? "help" = none)
include hhelp

/-- **A path is followed.** -/
theorem topicFor_of_path (source : Source) {p : CommandPath} (hv : s.settled v = .path p)
    (hp : s.isUntouched p = true) : topicFor t source v s = ofFault (t.topicOf p) s := by
  rw [topicFor, get_bind, helpFault?_eq_none hhelp, hv]
  dsimp only
  rw [hp]
  rfl

/-- **An id is the path of it alone.** -/
theorem topicFor_of_id (source : Source) {i : CommandId} (hi : s.isUntouched (.ofId i) = true) :
    topicFor t source (.id i) s = ofFault (t.topicOf (.ofId i)) s := by
  rw [topicFor, get_bind, helpFault?_eq_none hhelp]
  show (if s.isUntouched (.ofId i) then (ofFault (t.topicOf (.ofId i)) : Step OwnedTopic)
    else _) s = _
  rw [hi]
  rfl

/-- What is neither a path nor an id is taken as a value. -/
theorem topicFor_of_value (source : Source) (hroute : s.route? v = none) (hid : ∀ i, v ≠ .id i) :
    topicFor t source v s = topicOfValue t source v s := by
  rw [topicFor, get_bind, helpFault?_eq_none hhelp, hroute]
  cases v with
  | id i => exact absurd rfl (hid i)
  | path p => cases hroute
  | thing kind serial =>
    have hsettled : s.settled (.thing kind serial) = .thing kind serial := by
      rw [Session.settled, hroute]
      rfl
    rw [hsettled]
  | _ => simp only [Session.settled]

/-- A value whose tokens can be asked for is asked for them. -/
theorem topicOfValue_of_isSource (hsource : ∀ runs, source ≠ .runs runs) (hv : v ≠ .none)
    (h : s.isSource v = true) : topicOfValue t source v s = topicOfTokens t source v s := by
  rw [topicOfValue, helpFault?_eq_none hhelp]
  · dsimp only
    rw [get_bind, h]
    rfl
  · exact hv
  · exact hsource

/-- What gives texts is asked for its tokens. -/
theorem topicFor_of_gives (h : s.Gives source v ts) :
    topicFor t source v s = topicOfTokens t source v s := by
  cases h with
  | @items _ _ tokens _ hsource hstream hroute htokens h =>
    obtain ⟨hfault, hof⟩ : s.sourceFault? v = none ∧ Tokens.of? v = .ok tokens := by
      rw [Session.tokensOver, hroute] at htokens
      cases hfault : s.sourceFault? v with
      | none =>
        rw [hfault] at htokens
        exact ⟨rfl, htokens⟩
      | some e =>
        rw [hfault] at htokens
        cases htokens
    have hid (i : CommandId) : v ≠ .id i := by
      rintro rfl
      cases hof
    have hnone : v ≠ .none := by
      rintro rfl
      cases hof
    have hisSource : s.isSource v = true := by
      rw [Session.isSource, hof, hstream, hfault]
      rfl
    rw [topicFor_of_value hhelp source hroute hid]
    exact topicOfValue_of_isSource hhelp hsource hnone hisSource
  | @stream _ serial cells tokens _ hsource hcells htokens h =>
    have hisSource : s.isSource (.thing Tokens.kindName serial) = true := by
      have hstream : s.stream? (.thing Tokens.kindName serial) = some cells := hcells
      rw [Session.isSource, hstream]
      rfl
    rw [topicFor_of_value hhelp source rfl fun _ => Value.noConfusion]
    exact topicOfValue_of_isSource hhelp hsource Value.noConfusion hisSource
  | runs h =>
    rw [topicFor_of_value hhelp _ rfl fun _ => Value.noConfusion, topicOfValue,
      helpFault?_eq_none hhelp]
    exact Value.noConfusion

theorem exists_topicFor_of_gives (hreader : t.instead? "parse_path" = none)
    (h : s.Gives source v ts) :
    ∃ s', topicFor t source v s = ofFault (t.parsePath (.ofList ts) >>= t.topicOf) s' := by
  rw [topicFor_of_gives hhelp h]
  exact exists_topicOfTokens hreader h

end Help

end Step

end CommandSpec
