import CommandSpec.Docs
import CommandSpec.Styled.Fragment

/-!
# Topic — what help can be asked for

A topic is the raw material of a help text: the usage and description of one command, the summary of
a family with the usages of its members, or a text of its own.  `Fold/Help` takes topics apart.
-/

namespace CommandSpec

/-- A help topic. -/
inductive Topic where
  | command (usage : Usage) (desc : CommandDesc)
  | family (summary : Option Fragment) (commands : List Usage)
  | custom (text : String)
  deriving DecidableEq, Repr

end CommandSpec
