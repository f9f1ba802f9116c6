import CommandSpec.Proofs.Command.Texts
import CommandSpec.Tinygit

/-!
# Proofs/Tinygit — the types of the small program

Each type of the program is declared with the help of earlier ones.  So it is built, its commands
keep their tokens as they are, and nothing stands in the place of the methods that read.  Other
small types are declared in the same way (`declaration`).
-/

namespace CommandSpec.Tinygit

variable {serial : Nat} {d : Declaration}

/-- A declared type is what the declaration makes, or else a root. -/
theorem declared_cases (serial : Nat) (d : Declaration) :
    (∃ log, CommandType.declare serial d [] = .ok (declared serial d) log) ∨
      declared serial d = .root .command := by
  rw [declared, Logged.result, EStateM.run]
  cases CommandType.declare serial d [] with
  | ok t log => exact .inl ⟨log, rfl⟩
  | error e log => exact .inr rfl

/-- The number of a declared type, if it has one, is that of its declaration. -/
theorem serial_eq_of_declared {n : Nat} (h : (declared serial d).serial? = some n) :
    n = serial := by
  obtain ⟨log, hd⟩ | hd := declared_cases serial d
  · exact Option.some.inj (h.symm.trans (CommandType.serial?_of_declare hd))
  · rw [hd] at h
    cases h

/-- A declared type is built if those that its declaration refers to are. -/
theorem built_declared (below : ∀ u, d.RefersTo u → u.Built) : (declared serial d).Built := by
  obtain ⟨log, h⟩ | h := declared_cases serial d
  · exact .declare below h
  · rw [h]
    exact .root .command

/-- A declared type that is no root holds what its declaration says. -/
theorem instead?_declared (hroot : (declared serial d).isRoot = false) {method : String}
    {entry : BodyEntry} {s : Shared CommandType} (h : d.body.lookup method = some entry)
    (hs : ∀ kind, entry.sharedBy? kind = some s)
    (hdescribed : method ∉ [Declaration.docName, Declaration.placeName]) :
    (declared serial d).instead? method = some s := by
  have hfield : ∀ a, d.body.lookup method ≠ some (.field a) := fun a ha => by
    obtain rfl := Option.some.inj (h.symm.trans ha)
    cases hs .command
  obtain ⟨log, hd⟩ | hd := declared_cases serial d
  · rw [CommandType.instead?, CommandType.shared_of_declare hd,
      Declaration.lookup_shared hfield hdescribed, h]
    exact hs _
  · rw [hd] at hroot
    cases hroot

/-- A declared type holds nothing that its declaration does not mention. -/
theorem instead?_declared_eq_none {method : String} (h : d.body.lookup method = none)
    (hdescribed : method ∉ [Declaration.docName, Declaration.placeName]) :
    (declared serial d).instead? method = none := by
  obtain ⟨log, hd⟩ | hd := declared_cases serial d
  · rw [CommandType.instead?, CommandType.shared_of_declare hd,
      Declaration.lookup_shared_eq_none h hdescribed]
  · rw [hd]
    rfl

/-- What a declared command hands its tokens to is a type that its declaration refers to. -/
theorem refersTo_of_nested (hbases : d.bases = [.root .command]) {c : Member}
    (hc : c ∈ (declared serial d).members) {u : CommandType} (hu : c.nested? = some u) :
    d.RefersTo u := by
  obtain ⟨log, h⟩ | h := declared_cases serial d
  · rw [CommandType.declare_eq_command hbases] at h
    obtain ⟨c', hc', -, -, -, hnested⟩ := CommandType.of_declareCommand h
    rw [hc'] at hc
    obtain rfl := List.mem_singleton.1 hc
    exact hnested u hu
  · rw [h] at hc
    cases hc

/-- The members of a declared family are types that its declaration refers to. -/
theorem refersTo_of_member (hbases : d.bases = [.root .family]) {c : Member}
    (hc : c ∈ (declared serial d).members) : d.RefersTo (.single c) := by
  obtain ⟨log, h⟩ | h := declared_cases serial d
  · rw [CommandType.declare_eq_family hbases] at h
    obtain ⟨-, -, -, -, hmembers⟩ := CommandType.of_declareFamily h
    exact hmembers c hc
  · rw [h] at hc
    cases hc

/-- What holds of the commands of a declaration and of the types that it refers to holds of the
declared type at every depth. -/
theorem throughout_declared {P : Member → Prop}
    (hd : ∀ m : CommandType.Making serial d, P m.command)
    (below : ∀ u, d.RefersTo u → u.Throughout P) : (declared serial d).Throughout P := by
  obtain ⟨log, h⟩ | h := declared_cases serial d
  · exact .of_declare h hd below
  · rw [h]
    exact .root .command

/-- A type that is built, all of whose commands keep their tokens as they are, and that has nothing
in the place of a method that reads, or of what makes values. -/
structure IsOrdinary (t : CommandType) : Prop where
  built : t.Built
  texts : t.Throughout Command.TakesTexts
  nests : t.Throughout Command.NestsTypes
  below : t.Throughout Command.KeepsReaders
  makes : t.Throughout Command.MakesOwn
  readers : t.KeepsReaders

/-- **A type is ordinary** if its declaration is, and the types that this refers to are. -/
theorem isOrdinary_declared (htexts : d.TakesTexts) (hnests : d.NestsTypes)
    (hreaders : d.KeepsReaders) (below : ∀ u, d.RefersTo u → IsOrdinary u) :
    IsOrdinary (declared serial d) := by
  refine ⟨built_declared fun u hu => (below u hu).built, ?_, ?_, ?_, ?_, ?_, ?_, ?_⟩
  · exact throughout_declared (fun m => m.takesTexts htexts) fun u hu => (below u hu).texts
  · exact throughout_declared (fun m => m.nestsTypes hnests) fun u hu => (below u hu).nests
  · exact throughout_declared (fun m => m.keepsReaders fun u hu => (below u hu).readers)
      fun u hu => (below u hu).below
  · exact throughout_declared (fun m => m.makesOwn hreaders.maker) fun u hu => (below u hu).makes
  · exact instead?_declared_eq_none hreaders.parse (by decide)
  · exact instead?_declared_eq_none hreaders.parsePath (by decide)
  · exact instead?_declared_eq_none hreaders.parsePathOpt (by decide)

/-- A body of plain text keeps tokens as they are. -/
theorem takesTexts_of_fields (attrs : List String) (h : d.body = attrs.map textField) :
    d.TakesTexts := by
  intro _ attr a ha _
  rw [h] at ha
  obtain ⟨name, -, heq⟩ := List.mem_map.1 ha
  cases heq
  rfl

/-- A body of plain text has no function with methods. -/
theorem nestsTypes_of_fields (attrs : List String) (h : d.body = attrs.map textField) :
    d.NestsTypes := by
  intro attr a f ha hf method
  rw [h] at ha
  obtain ⟨name, -, heq⟩ := List.mem_map.1 ha
  cases heq
  cases hf
  rfl

/-- The declaration of a type as small as those of the program. -/
def declaration (kind : Kind) (name : String) (doc : Option String)
    (body : List (String × BodyEntry)) (delegates : Bool) : Declaration where
  name := ⟨name, name⟩
  bases := [.root kind]
  doc := doc
  body := body
  extras := []
  delegates := delegates

/-- What the command of such a declaration hands its tokens to is a type in the body. -/
theorem refersTo_of_mem {name : String} {doc : Option String} {body : List (String × BodyEntry)}
    {delegates : Bool} {c : Member}
    (hc : c ∈ (declared serial (declaration .command name doc body delegates)).members)
    {u : CommandType} (hu : c.nested? = some u) :
    (declaration .command name doc body delegates).RefersTo u :=
  refersTo_of_nested rfl hc hu

/-! ## The types of the program -/

theorem isOrdinary_push : IsOrdinary push := by
  rw [push]
  refine isOrdinary_declared (takesTexts_of_fields ["branch", "force"] rfl)
    (nestsTypes_of_fields ["branch", "force"] rfl) ⟨rfl, rfl, rfl, rfl⟩ ?_
  intro u hu
  cases hu

theorem isOrdinary_status : IsOrdinary status := by
  rw [status]
  refine isOrdinary_declared (takesTexts_of_fields [] rfl) (nestsTypes_of_fields [] rfl)
    ⟨rfl, rfl, rfl, rfl⟩ ?_
  intro u hu
  cases hu

theorem isOrdinary_git : IsOrdinary git := by
  rw [git]
  refine isOrdinary_declared ?_ ?_ ⟨rfl, rfl, rfl, rfl⟩ ?_
  · intro _ attr a ha _
    simp at ha
  · intro attr a f ha
    simp at ha
  · intro u hu
    change u ∈ [push, status] at hu
    rcases List.mem_pair.1 hu with hu | hu
    · exact hu ▸ isOrdinary_push
    · exact hu ▸ isOrdinary_status

theorem isOrdinary_help : IsOrdinary help := by
  rw [help]
  refine isOrdinary_declared ?_ ?_ ⟨rfl, rfl, rfl, rfl⟩ ?_
  · intro _ attr a ha hpath
    cases List.mem_singleton.1 ha
    cases hpath
  · intro attr a f ha hf
    cases List.mem_singleton.1 ha
    cases hf
  · intro u hu
    exact List.mem_singleton.1 hu ▸ isOrdinary_git

/-- **The types of the program are ordinary.** -/
theorem isOrdinary_cli : IsOrdinary cli := by
  rw [cli]
  refine isOrdinary_declared (takesTexts_of_fields [] rfl) (nestsTypes_of_fields [] rfl)
    ⟨rfl, rfl, rfl, rfl⟩ ?_
  intro u hu
  change u ∈ [push, status, help] at hu
  simp only [List.mem_cons, List.not_mem_nil, or_false] at hu
  rcases hu with hu | hu | hu
  · exact hu ▸ isOrdinary_push
  · exact hu ▸ isOrdinary_status
  · exact hu ▸ isOrdinary_help

end CommandSpec.Tinygit
