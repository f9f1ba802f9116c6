import CommandSpec.Proofs.Command.Construction
import CommandSpec.Proofs.Command.Nested
import CommandSpec.Proofs.Styled.Fault

/-!
# Proofs/Tinygit/Run — every run of the small program ends

A run reads its arguments against all commands, and shows what comes of it.  The reading ends in a
value or in a fault of commands (`Built.ends_readTokens`), whose message is made of texts
(`Fails.ofTexts`).  A value is shown as it is, unless it is one of the command that shows help.
Such a value holds the path that the tokens after its name have been parsed as
(`Built.value_of_pathCommand`), and a path that has been parsed leads help to a topic.
-/

namespace CommandSpec

/-! ## Faults made of texts -/

namespace CommandType

open FaultPart (isText_text)

variable {t u : CommandType} {token : String} {ts : List String} {c : Member} {e : Fault}

theorem ofTexts_of_resolve (h : t.resolve token = .error e) : e.OfTexts := by
  obtain rfl | ⟨candidates, rfl⟩ := Trie.error_of_lookup h
  · exact ⟨isText_text token, t.trie.names, rfl⟩
  · exact isText_text token

theorem PathFails.ofTexts (h : t.PathFails ts e) : e.OfTexts := by
  induction h with
  | incomplete => exact trivial
  | badId he =>
    rw [Fault.OfTexts]
    exact ofTexts_of_resolve he
  | trailing => exact isText_text _
  | nested _ _ _ _ ih => exact ih

/-- A field that keeps its tokens as they are refuses none. -/
theorem not_refuses_of_takesTexts (hc : c.TakesTexts) {j : Nat} {f : PlainField}
    (hf : c.taker? j = some f) (e : Fault) : ¬ f.Refuses token e := by
  have htext : f.converter = .text := by
    obtain hplain | ⟨-, hrest⟩ := Option.or_eq_some_iff.1 hf
    · obtain hmem | hmem := List.mem_append.1 (List.mem_of_getElem? hplain)
      · exact hc.required f hmem
      · exact hc.optional f hmem
    · obtain ⟨r, hr, hkind, -⟩ := Command.exists_of_plainRest? hrest
      exact hc.rest r hr _ hkind
  rw [PlainField.Refuses, htext]
  rintro ⟨⟩

/-- **The faults of reading are made of texts**, where fields keep their tokens as they are. -/
theorem Fails.ofTexts (h : t.Fails ts e) (htexts : t.Throughout Command.TakesTexts) :
    e.OfTexts := by
  induction h with
  | noInput => exact trivial
  | badId he =>
    rw [Fault.OfTexts]
    exact ofTexts_of_resolve he
  | missing | missingRest => exact ⟨isText_text _, isText_text _⟩
  | refused hc hf _ he => exact absurd he (not_refuses_of_takesTexts (htexts.of_mem hc.mem) hf _)
  | badPath _ _ _ _ below => exact ⟨isText_text _, isText_text _, below.ofTexts⟩
  | trailing => exact ⟨isText_text _, isText_text _⟩
  | subcommand hc hu _ _ ih => exact ⟨isText_text _, ih (htexts.nested hc.mem hu)⟩

/-! ## A command that takes a path -/

/-- **What a command that takes nothing but a path is read as**: its field holds the path that the
tokens after its name are parsed as, or none where there is no token. -/
theorem Built.value_of_pathCommand (ht : Built t) (hc : t.ResolvesTo token c) (hmakes : c.MakesOwn)
    (hrequired : c.required = []) (hoptional : c.optional = []) {r : RestField CommandType}
    (hr : c.rest = some r) (hreads : r.standIn? = none) (hkind : r.kind = .path u) {v : Value}
    (h : t.parse (.ofList (token :: ts)) = .ok v) :
    ts = [] ∧ v = .command c.id [(r.attr, .none)] ∨
      ∃ p, u.parsePath (.ofList ts) = .ok p ∧ v = .command c.id [(r.attr, .path p)] := by
  obtain ⟨ts', h⟩ := parse_ofList_eq_ok_iff.1 h
  rw [ht.readTokens_of_resolvesTo hc, Command.fieldTokens_of_nil hrequired hoptional] at h
  obtain ⟨fields, ts₁, hrest, hcheck⟩ := bind_eq_ok_iff.1 h
  obtain ⟨hmake, rfl⟩ := TokenReading.check_eq_ok_iff.1 hcheck
  obtain rfl := Command.eq_of_make hmakes hmake
  obtain ⟨hpresent, w, hw, rfl⟩ := (Command.restTokens_some_eq_ok_iff hr).1 hrest
  have hforeign : r.kind.foreign? = none := by rw [hkind]; rfl
  by_cases hts : ts = []
  · subst hts
    have hdefault := Command.restDefault?_of_restValue hforeign hreads (hpresent rfl) hw
    rw [Parameter.restDefault?, hpresent rfl, hkind] at hdefault
    obtain rfl : Value.none = w := Option.some.inj hdefault
    exact .inl ⟨rfl, rfl⟩
  · have hvalue := Command.valueOf_of_restValue hreads hts hw
    rw [RestField.valueOf, hkind] at hvalue
    obtain ⟨p, hp, rfl⟩ := except_map_eq_ok_iff.1 hvalue
    exact .inr ⟨p, hp, rfl⟩

end CommandType

/-! ## What is laid out -/

namespace Layout

theorem textLines_ne_nil (s : String) : textLines s ≠ [] :=
  mt List.map_eq_nil_iff.1 (Text.splitAt_ne_nil _ _)

theorem lines_text_ne_nil (t : StyledText) : lines (.text t) ≠ [] := by
  rw [lines]
  exact textLines_ne_nil _

theorem lines_table_ne_nil (t : StyledTable) : lines (.table t) ≠ [] := by
  rw [lines]
  exact List.cons_ne_nil _ _

theorem linesOfAll_ne_nil {m : Markup} {ms : List Markup} (hm : m ∈ ms) (h : lines m ≠ []) :
    linesOfAll ms ≠ [] := by
  induction ms with
  | nil => cases hm
  | cons first ms ih =>
    rw [linesOfAll]
    obtain rfl | hm := List.mem_cons.1 hm
    · exact List.append_ne_nil_of_left_ne_nil h _
    · exact List.append_ne_nil_of_right_ne_nil _ (ih hm)

theorem lines_group_ne_nil {m : Markup} {ms : List Markup} (hm : m ∈ ms) (h : lines m ≠ []) :
    lines (.group ms) ≠ [] := by
  rw [lines]
  exact linesOfAll_ne_nil hm h

/-- A report has a line. -/
theorem lines_report_ne_nil (host : Host) (colourful suggest : Bool) (e : Fault) :
    lines (Styled.report host ⟨colourful, false, suggest⟩ e) ≠ [] :=
  lines_group_ne_nil (List.mem_cons_self ..) (lines_text_ne_nil _)

/-- A help text has a line, unless it is that of a family without commands. -/
theorem lines_display_ne_nil (host : Host) (colourful : Bool) (title : Option String)
    {topic : Topic} (h : ∀ summary, topic ≠ .family summary []) :
    lines (Styled.display host ⟨colourful, false⟩ title topic) ≠ [] := by
  cases topic with
  | command usage desc =>
    show lines (if _ then _ else _) ≠ []
    split
    · exact lines_text_ne_nil _
    · exact lines_group_ne_nil (List.mem_cons_self ..) (lines_text_ne_nil _)
  | family summary commands =>
    cases commands with
    | nil => exact absurd rfl (h summary)
    | cons first more =>
      refine lines_group_ne_nil (List.mem_append_right _ (List.mem_singleton_self _)) ?_
      exact lines_table_ne_nil _
  | custom text => exact lines_text_ne_nil _

end Layout

namespace Tinygit

open CommandType

variable {c : Member} {u : CommandType} {console : Console} {host : Host} {args ts : List String}
  {v : Value}

/-! ## Its commands -/

/-- **A command of the program** is the one that pushes, the one that shows the status, or the one
that shows help. -/
theorem single_cases (hc : c ∈ cli.members) :
    single c = push ∨ single c = status ∨ single c = help := by
  have hmem : single c ∈ [push, status, help] := refersTo_of_member rfl hc
  simpa only [List.mem_cons, List.not_mem_nil, or_false] using hmem

theorem single_cases_git (hc : c ∈ git.members) : single c = push ∨ single c = status := by
  have hmem : single c ∈ [push, status] := refersTo_of_member rfl hc
  exact List.mem_pair.1 hmem

theorem mem_of_single_eq {t : CommandType} (h : single c = t) : c ∈ t.members :=
  h ▸ List.mem_singleton_self c

/-- The commands of version control hand their tokens to no type. -/
theorem nested?_eq_none (h : single c = push ∨ single c = status) : c.nested? = none := by
  refine Option.eq_none_iff_forall_ne_some.2 fun u hu => ?_
  have hmem : u ∈ ([] : List CommandType) := by
    obtain h | h := h
    · exact refersTo_of_nested rfl (mem_of_single_eq h) hu
    · exact refersTo_of_nested rfl (mem_of_single_eq h) hu
  cases hmem

theorem eq_git_of_nested (h : single c = help) (hu : c.nested? = some u) : u = git := by
  have hmem : u ∈ [git] := refersTo_of_nested rfl (mem_of_single_eq h) hu
  exact List.mem_singleton.1 hmem

/-- The command that shows help is told from the others by its number. -/
theorem serial_ne_of_other (h : single c = push ∨ single c = status) :
    some c.id.serial ≠ help.serial? := by
  intro heq
  have hhelp : c.id.serial = 3 := serial_eq_of_declared heq.symm
  obtain h | h := h
  · have hserial : c.id.serial = 0 := serial_eq_of_declared (congrArg serial? h).symm
    omega
  · have hserial : c.id.serial = 1 := serial_eq_of_declared (congrArg serial? h).symm
    omega

/-- What is seen of the commands of the program: the names of their fields are free, none has
subcommands, and the one that shows help takes the path of a type with commands, and nothing else.
-/
theorem forall_mem_cli : cli.members ≠ [] ∧ ∀ c ∈ cli.members, c.IsFree ∧
    c.subcommands?.isNone = true ∧ (∀ u ∈ c.nested?, u.members ≠ []) ∧
    (some c.id.serial = help.serial? →
      c.required.isEmpty = true ∧ c.optional.isEmpty = true ∧ c.nested?.isSome = true) := by
  decide +kernel

/-- A declared type with commands can be read, if nothing stands in the place of its methods and its
nested types can. -/
theorem readable_of_members_ne_nil {serial : Nat} {d : Declaration}
    (hne : (declared serial d).members ≠ [])
    (hbody : askedMethods.all (fun method => (d.body.lookup method).isNone) = true)
    (hnests : (declared serial d).Throughout Command.NestsTypes)
    (hnested : ∀ c ∈ (declared serial d).members, ∀ u, c.nested? = some u → u.Readable) :
    (declared serial d).Readable := by
  refine .intro (Sample.isRoot_of_ne_nil hne) (fun method hmethod => ?_)
    (fun _ => hnests.of_mem) hnested
  exact instead?_declared_eq_none
    (Option.isNone_iff_eq_none.1 (List.all_eq_true.1 hbody method hmethod))
    (not_described_of_asked method hmethod)

theorem readable_git (hne : git.members ≠ []) : git.Readable :=
  readable_of_members_ne_nil hne rfl isOrdinary_git.nests fun _ hc _ hu =>
    nomatch (nested?_eq_none (single_cases_git hc)).symm.trans hu

theorem readable_cli : cli.Readable := by
  refine readable_of_members_ne_nil forall_mem_cli.1 rfl isOrdinary_cli.nests
    fun c hc u hu => ?_
  obtain ⟨-, -, hne, -⟩ := forall_mem_cli.2 c hc
  obtain h | h | h := single_cases hc
  · cases (nested?_eq_none (.inl h)).symm.trans hu
  · cases (nested?_eq_none (.inr h)).symm.trans hu
  · have hgit := eq_git_of_nested h hu
    rw [hgit] at hu ⊢
    exact readable_git (hne git hu)

theorem isFree_cli : cli.Throughout Command.IsFree :=
  .intro (fun c hc => (forall_mem_cli.2 c hc).1) fun c hc u hu => by
    rw [Option.isNone_iff_eq_none.1 (forall_mem_cli.2 c hc).2.1] at hu
    cases hu

/-! ## Arguments -/

/-- Whether arguments begin with the switch that turns the log on. -/
def isVerbose (args : List String) : Bool := args.head?.any fun a => a = "-v" || a = "--verbose"

/-- The arguments without the switch. -/
def switched (args : List String) : List String := if isVerbose args then args.tail else args

/-- **What a run reads**: its arguments without the switch, or where nothing is left the name of
the command that shows help. -/
def request (args : List String) : List String :=
  if switched args = [] then ["help"] else switched args

theorem verbose_texts (args : List String) :
    verbose (.list (args.map .text)) = .ok (isVerbose args, .list ((switched args).map .text)) := by
  cases args with
  | nil => rfl
  | cons a args =>
    by_cases hv : a = "-v"
    · subst hv
      rfl
    · by_cases hverbose : a = "--verbose"
      · subst hverbose
        rfl
      · have hswitch : isVerbose (a :: args) = false := by simp [isVerbose, hv, hverbose]
        rw [switched, hswitch]
        simp [verbose, hv, hverbose]

theorem orHelp_texts (ts : List String) :
    orHelp (.list (ts.map .text)) = .list ((if ts = [] then ["help"] else ts).map .text) := by
  cases ts <;> rfl

theorem of?_texts (ts : List String) :
    Tokens.of? (.plain (.list (ts.map .text))) = .ok (.ofList ts) :=
  Session.start.tokensOver_texts ts

/-- **A run reads its request** against all commands. -/
theorem run_texts (console : Console) (host : Host) (args : List String) :
    runOn console host (.list (args.map .text)) =
      outcome console host (if isVerbose args then LogLevel.debug else 0)
        (cli.parse (.ofList (request args))) := by
  have hswitch : (verbose (.list (args.map .text))).mapError Misuse.fault =
      .ok (isVerbose args, .list ((switched args).map .text)) := by
    rw [verbose_texts]
    rfl
  have htokens : (Tokens.of? (.plain (orHelp (.list ((switched args).map .text))))).mapError
      Misuse.fault = .ok (.ofList (request args)) := by
    rw [orHelp_texts, of?_texts]
    rfl
  rw [runOn, except_bind_of_ok hswitch]
  exact except_bind_of_ok htokens

/-! ## What is shown -/

/-- The lines of a help text on a topic. -/
def helpText (console : Console) (host : Host) (topic : Topic) : List String :=
  console.lines (Styled.display host ⟨true, false⟩ git.name.hyphenated topic)

/-- **What is shown for a value that has been read**: the value itself, or where it asks for help
the topic of the command that the path after the name of its own leads to.  Without a path it is the
topic of all commands. -/
inductive Shows (console : Console) (host : Host) : List String → Value → List String → Prop
  | value {ts : List String} {c : Member} {fields : List (String × Value)}
    (hc : single c = push ∨ single c = status) : Shows console host ts (.command c.id fields)
      [(Value.command c.id fields).shownWith { typeName := TypeName.short }]
  | summary {token attr : String} {c : Member} {topic : Topic} (hc : single c = help)
    (htopic : git.topic? = some topic) :
    Shows console host [token] (.command c.id [(attr, .none)]) (helpText console host topic)
  | topic {token attr : String} {ts : List String} {c d : Member} {p : CommandPath}
    (hc : single c = help) (hp : git.parsePath (.ofList ts) = .ok p) (hd : git.Reaches p.ids d) :
    Shows console host (token :: ts) (.command c.id [(attr, .path p)])
      (helpText console host d.topic)

theorem valueLines_of_other (hc : single c = push ∨ single c = status)
    (fields : List (String × Value)) : valueLines console host (.command c.id fields) =
      .ok [(Value.command c.id fields).shownWith { typeName := TypeName.short }] := by
  unfold valueLines
  exact if_neg (serial_ne_of_other hc)

/-- A type with commands has a topic, and that of a family lists them. -/
theorem exists_rootTopic {t : CommandType} (h : t.members ≠ []) : ∃ serial topic,
    t.rootTopic = .ok ⟨serial, topic⟩ ∧ t.topic? = some topic ∧
      ∀ summary, topic ≠ .family summary [] := by
  cases t with
  | root => exact absurd rfl h
  | single c => exact ⟨_, _, rfl, rfl, nofun⟩
  | family name serial summary members =>
    refine ⟨_, _, rfl, rfl, fun _ heq => h ?_⟩
    exact List.map_eq_nil_iff.1 (Topic.family.inj heq).2

section Help

variable (hc : single c = help) {attr : String} {serial : Nat} {topic : Topic}
include hc

theorem serial_eq_of_help : some c.id.serial = help.serial? := congrArg serial? hc

theorem valueLines_of_rootTopic (h : git.rootTopic = .ok ⟨serial, topic⟩) :
    valueLines console host (.command c.id [(attr, .none)])
      = .ok (helpText console host topic) := by
  unfold valueLines helpLines
  refine (if_pos (serial_eq_of_help hc)).trans ?_
  show (git.rootTopic >>= fun found => pure (helpText console host found.topic)) = _
  rw [h]
  rfl

theorem valueLines_of_topicOf {p : CommandPath} (h : git.topicOf p = .ok ⟨serial, topic⟩) :
    valueLines console host (.command c.id [(attr, .path p)])
      = .ok (helpText console host topic) := by
  unfold valueLines helpLines
  refine (if_pos (serial_eq_of_help hc)).trans ?_
  show (git.topicOf p >>= fun found => pure (helpText console host found.topic)) = _
  rw [h]
  rfl

end Help

/-- What the command that shows help is read as can be shown: its path leads to a topic. -/
theorem exists_shows_of_help (console : Console) (host : Host) {token : String}
    (hc : cli.ResolvesTo token c) (hhelp : single c = help)
    (h : cli.parse (.ofList (token :: ts)) = .ok v) :
    ∃ out, valueLines console host v = .ok out ∧ out ≠ [] ∧
      Shows console host (token :: ts) v out := by
  obtain ⟨-, hlast, hmembers, hplain⟩ := forall_mem_cli.2 c hc.mem
  obtain ⟨hrequired, hoptional, hnested⟩ := hplain (serial_eq_of_help hhelp)
  obtain ⟨u, hu⟩ := Option.isSome_iff_exists.1 hnested
  have hne := hmembers u hu
  have hgit := eq_git_of_nested hhelp hu
  rw [hgit] at hu hne
  obtain ⟨r, hr, hkind⟩ := Command.exists_path hu (Option.isNone_iff_eq_none.1 hlast)
  obtain ⟨rfl, rfl⟩ | ⟨p, hp, rfl⟩ := isOrdinary_cli.built.value_of_pathCommand hc
    (isOrdinary_cli.makes.of_mem hc.mem) (List.isEmpty_iff.1 hrequired)
    (List.isEmpty_iff.1 hoptional) hr
    (readable_cli.readsRest_of_mem hc.mem r hr) hkind h
  · obtain ⟨serial, topic, hroot, htopic, hlists⟩ := exists_rootTopic hne
    exact ⟨_, valueLines_of_rootTopic hhelp hroot,
      console.lines_ne_nil _ (Layout.lines_display_ne_nil host _ _ hlists), .summary hhelp htopic⟩
  · obtain ⟨ts', hpath⟩ := parsePath_ofList_eq_ok_iff.1 hp
    obtain ⟨d, hd⟩ := reaches_of_pathTokens hpath
    have hkeeps : git.Throughout (Command.Keeps "help") := (readable_git hne).keeps (by decide)
    have htopic := isOrdinary_git.built.topicFrom_of_reaches hd (.of_throughout hkeeps _)
    exact ⟨_, valueLines_of_topicOf hhelp htopic,
      console.lines_ne_nil _ (Layout.lines_display_ne_nil host _ _ nofun), .topic hhelp hp hd⟩

/-- **Every value that has been read can be shown**, and there is something to show. -/
theorem exists_shows (console : Console) (host : Host) (h : cli.parse (.ofList ts) = .ok v) :
    ∃ out, valueLines console host v = .ok out ∧ out ≠ [] ∧ Shows console host ts v out := by
  obtain ⟨ts', hread⟩ := parse_ofList_eq_ok_iff.1 h
  obtain ⟨token, ts, i, rfl, -, hi, -, -, hfields⟩ := readTokens_eq_ok_iff.1 hread
  have hc : cli.ResolvesTo token (cli.members.get i) := ⟨i, hi, rfl⟩
  generalize cli.members.get i = c at hc hfields
  have hmem := hc.mem
  have hother (hc : single c = push ∨ single c = status) :
      ∃ out, valueLines console host v = .ok out ∧ out ≠ [] ∧
        Shows console host (token :: ts) v out := by
    obtain ⟨_, _, _, _, _, -, -, -, hmake⟩ := Command.fieldTokens_eq_ok_iff.1 hfields
    obtain rfl := Command.eq_of_make (isOrdinary_cli.makes.of_mem hmem) hmake
    exact ⟨_, valueLines_of_other hc _, List.cons_ne_nil _ _, .value hc⟩
  obtain hpush | hstatus | hhelp := single_cases hmem
  · exact hother (.inl hpush)
  · exact hother (.inr hstatus)
  · exact exists_shows_of_help console host hc hhelp h

/-! ## The law -/

/-- **Every run ends**, on every console, and keeps what it shows of values from what it shows of
faults.  Where its request is parsed as a value, it ends well, and there is something on standard
output and nothing on standard error.  Where this fails, the fault is one of commands whose report
can be made; it is all that is shown, on standard error.  The log shows its events if the switch has
been given. -/
theorem run_ends (console : Console) (host : Host) (args : List String) :
    ∃ o, runOn console host (.list (args.map .text)) = .ok o ∧
      o.level.showsEvents = isVerbose args ∧
      ((∃ v, cli.parse (.ofList (request args)) = .ok v ∧
          o.status = 0 ∧ o.err = [] ∧ o.out ≠ [] ∧ Shows console host (request args) v o.out) ∨
        ∃ e, cli.parse (.ofList (request args)) = .error e ∧
          e.isCommandFault = true ∧ e.foldable true = .ok e ∧
          o.status = 1 ∧ o.out = [] ∧ o.err ≠ [] ∧ o.err = faultLines console host e) := by
  have hlevel : (if isVerbose args then LogLevel.debug else 0).showsEvents = isVerbose args := by
    cases isVerbose args <;> rfl
  rw [run_texts]
  generalize (if isVerbose args then LogLevel.debug else 0) = level at hlevel ⊢
  obtain ⟨v, hv, -⟩ | ⟨e, he, hfails⟩ := (isOrdinary_cli.built.ends_readTokens
    readable_cli.rootless isFree_cli readable_cli.readsRest (request args)).outcome
  · rw [← parse_ofList] at hv
    obtain ⟨out, hlines, hne, hshows⟩ := exists_shows console host hv
    refine ⟨⟨0, out, [], level⟩, ?_, hlevel, .inl ⟨v, hv, rfl, rfl, hne, hshows⟩⟩
    rw [hv, outcome, hlines]
    rfl
  · rw [← parse_ofList] at he
    have hfoldable := (hfails.ofTexts isOrdinary_cli.texts).foldable true
    have hreport : faultLines console host e ≠ [] :=
      console.lines_ne_nil _ (Layout.lines_report_ne_nil host true true e)
    refine ⟨⟨1, [], faultLines console host e, level⟩, ?_, hlevel, .inr ⟨e, he,
      hfails.isCommandFault, hfoldable, rfl, rfl, hreport, rfl⟩⟩
    rw [he, outcome, if_pos hfails.isCommandFault]

end Tinygit

end CommandSpec
