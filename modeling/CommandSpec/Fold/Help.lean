import CommandSpec.Topic

/-!
# Fold/Help — taking help topics apart

A **help folder** has one leaf for each part of a topic.  The parts are folded from the inside out:
arguments, then usages and descriptions, then the topic.  The topic of a command shows its usage in
a long form, a family shows those of its members in a short one.
-/

namespace CommandSpec

/-- What to make of each part of a topic.  The parameters are what argument usages, long and short
usages, argument descriptions, descriptions and whole topics become. -/
structure HelpFolder (Arg Long Short ArgDesc Desc Out : Type) where
  argumentUsage (name : String) (isRequired isRest : Bool) : Arg
  longUsage (ids : List String) (args : List Arg) (desc : String) : Long
  shortUsage (ids : List String) (args : List Arg) (desc : String) : Short
  argumentDesc (name : String) (isRequired : Bool) (desc : String) : ArgDesc
  commandDesc (summary : Option String) (args : List ArgDesc) (examples : Option String) : Desc
  commandTopic (usage : Long) (desc : Desc) : Out
  familyTopic (summary : Option Fragment) (commands : List Short) : Out
  customTopic (text : String) : Out

namespace HelpFolder

variable {Arg Long Short ArgDesc Desc Out : Type}

/-- Fold the arguments of a usage. -/
def foldArguments (f : HelpFolder Arg Long Short ArgDesc Desc Out) (u : Usage) : List Arg :=
  u.arguments.map fun a => f.argumentUsage a.name a.isRequired a.isRest

/-- Fold a usage to its long form. -/
def foldLong (f : HelpFolder Arg Long Short ArgDesc Desc Out) (u : Usage) : Long :=
  f.longUsage u.ids (f.foldArguments u) u.desc

/-- Fold a usage to its short form. -/
def foldShort (f : HelpFolder Arg Long Short ArgDesc Desc Out) (u : Usage) : Short :=
  f.shortUsage u.ids (f.foldArguments u) u.desc

/-- Fold a description. -/
def foldDesc (f : HelpFolder Arg Long Short ArgDesc Desc Out) (d : CommandDesc) : Desc :=
  f.commandDesc d.summary (d.args.map fun a => f.argumentDesc a.name a.isRequired a.desc)
    d.examples

/-- **Fold a topic.** -/
def fold (f : HelpFolder Arg Long Short ArgDesc Desc Out) : Topic → Out
  | .command usage desc => f.commandTopic (f.foldLong usage) (f.foldDesc desc)
  | .family summary commands => f.familyTopic summary (commands.map f.foldShort)
  | .custom text => f.customTopic text

end HelpFolder

end CommandSpec
