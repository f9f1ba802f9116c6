import CommandSpec.Proofs.Command.Built
import CommandSpec.Proofs.Command.Succeeds
import CommandSpec.Proofs.Trie.Lookup

/-!
# Proofs/Command/Canonical — canonical names are read as what they name

The canonical name of a command of a built type resolves to that command (`IsNamed.resolve_name`).
So the canonical names of a path that has been read are read as that path, and there are as many of
them as tokens (`pathTokens_names`).
-/

namespace CommandSpec

namespace CommandType

variable {t : CommandType}

/-- A name of a command stands among the identifiers, with the place of the command. -/
theorem mem_identifiers {i : Fin t.members.length} {name : String}
    (h : name ∈ (t.members.get i).names) : (name, i) ∈ t.identifiers := by
  rw [identifiers, List.mem_flatMap]
  exact ⟨i, List.mem_finRange i, List.mem_map_of_mem (f := (·, i)) h⟩

/-- **A canonical name resolves** to the command that goes by it. -/
theorem IsNamed.resolve_name (h : t.IsNamed) (i : Fin t.members.length) :
    t.resolve (t.members.get i).name = .ok i := by
  have hmem : ((t.members.get i).name, i) ∈ t.identifiers :=
    mem_identifiers (h.canonical_mem _ (List.get_mem t.members i))
  rw [resolve, trie, Trie.lookup_of_key_eq h.nodup_keys hmem rfl]

/-- **The canonical names of a path are read as the path**, whatever tokens it has been read from;
a path takes all tokens, each as one name. -/
theorem pathTokens_names {t : CommandType} (ht : Built t) {ts ts' : List String} {p : CommandPath}
    (h : t.pathTokens ts = .ok p ts') :
    ts' = [] ∧ p.names.length = ts.length ∧ t.pathTokens p.names = .ok p [] := by
  obtain ⟨token, ts₁, i, below, rfl, hroot, -, hfault, hbelow, rfl⟩ := pathTokens_eq_ok_iff.1 h
  have hresolve := ht.isNamed.resolve_name i
  have hmem : t.members.get i ∈ t.members := List.get_mem t.members i
  -- what follows the name is read below the command, or there is nothing
  have hrest : ts' = [] ∧ (below.map (·.name)).length = ts₁.length ∧
      (t.members.get i).belowTokens (fun u _ => u.pathTokens) (below.map (·.name))
        = .ok below [] := by
    obtain hu | ⟨u, hu⟩ := Option.eq_none_or_eq_some (t.members.get i).subcommands?
    · obtain ⟨rfl, rfl, rfl⟩ := (Command.belowTokens_none_eq_ok_iff hu).1 hbelow
      exact ⟨rfl, rfl, (Command.belowTokens_none_eq_ok_iff hu).2 ⟨rfl, rfl, rfl⟩⟩
    · have hu' := nested?_of_subcommands? hu
      have : sizeOf u < sizeOf t := sizeOf_nested_lt hmem hu'
      rcases (Command.belowTokens_some_eq_ok_iff hu).1 hbelow with
        ⟨rfl, rfl, rfl⟩ | ⟨hne, q, hq, rfl⟩
      · exact ⟨rfl, rfl, (Command.belowTokens_some_eq_ok_iff hu).2 (.inl ⟨rfl, rfl, rfl⟩)⟩
      · obtain ⟨rfl, hlength, hnames⟩ := pathTokens_names (ht.nested hmem hu') hq
        refine ⟨rfl, hlength, (Command.belowTokens_some_eq_ok_iff hu).2 (.inr ⟨?_, q, hnames, rfl⟩)⟩
        exact List.cons_ne_nil _ _
  obtain ⟨rfl, hlength, hnames⟩ := hrest
  refine ⟨rfl, ?_, pathTokens_eq_ok_iff.2 ?_⟩
  · rw [CommandPath.names, CommandPath.ids, List.map_cons, List.length_cons, List.length_cons,
      hlength]
  · exact ⟨_, _, i, below, rfl, hroot, hresolve, hfault, hnames, rfl⟩
termination_by sizeOf t

end CommandType

end CommandSpec
