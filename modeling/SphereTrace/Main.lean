import SphereTrace.Demo.Programs

/-! # Command line

Runs the demonstration that is named on the command line: prints its log, and writes the shader it
leaves to the working directory.
-/

namespace SphereTrace

def Demo.Level.name : Demo.Level → String
  | .info => "INFO"
  | .warn => "WARN"

/-- Enough random words for any demonstration. -/
def randomWords (count : Nat) : IO (Array UInt32) := do
  let mut words := #[]
  for _ in List.range count do
    words := words.push (UInt32.ofNat (← IO.rand 0 0xffffffff))
  return words

def start (name : String) : IO UInt32 := do
  let words ← randomWords 64
  match Demo.outcome? name fun i => words.getD i 0 with
  | none =>
    let known := (Demo.programs fun _ => 0).map Prod.fst
    IO.eprintln s!"unknown demonstration {name}, expected one of {known}"
    return 2
  | some (.error e) =>
    IO.eprintln e.message
    return 1
  | some (.ok outcome) =>
    for entry in outcome.log do
      IO.println s!"{entry.level.name} {entry.text}"
    if let some (file, source) := outcome.shader then
      IO.FS.writeFile file source
    return 0

end SphereTrace

def main (args : List String) : IO UInt32 :=
  match args with
  | [name] => SphereTrace.start name
  | _ => do
    IO.eprintln "the name of one demonstration is expected"
    return 2
