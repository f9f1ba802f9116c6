import CommandSpec.Tinygit

/-!
# Main — the command line of tinygit
-/

/-- Run the program and print its lines. -/
def main (args : List String) : IO UInt32 := do
  match CommandSpec.Tinygit.run CommandSpec.Tinygit.host (.list (args.map .text)) with
  | .ok outcome =>
    for line in outcome.out do IO.println line
    for line in outcome.err do IO.eprintln line
    return outcome.status.toUInt32
  | .error e =>
    IO.eprintln e.message
    return 1
