import CommandSpec.Misuse

/-!
# Release — what the library says of itself

Its title, licence and version, and the sentinel for a value that was not given.
-/

namespace CommandSpec.Release

/-- The title of the library. -/
def title : String := "docbot"

/-- The name of its licence. -/
def licence : String := "MIT"

/-- A version in parts. -/
structure Version where
  major : Nat
  minor : Nat
  micro : Nat
  stage : String
  serial : Nat
  deriving DecidableEq, Repr

/-- The version of the library. -/
def version : Version := ⟨0, 1, 0, "final", 0⟩

/-- A version as it is written. -/
def Version.shown (v : Version) : String :=
  ".".intercalate ([v.major, v.minor, v.micro].map toString)

/-- What can be observed of the sentinel for a value that was not given. -/
structure Sentinel where
  truth : Bool
  shown : String
  unique : Bool
  /-- What deriving from its type results in. -/
  derivation : Misuse

/-- The sentinel: it is false, it is one and the same everywhere, and its type is sealed. -/
def absent : Sentinel := ⟨false, "Unset", true, .absentTypeSealed⟩

end CommandSpec.Release
