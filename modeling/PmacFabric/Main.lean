import PmacFabric.Simulation.CommandLine

/-!
# The program

Reads the arguments, runs the simulation with a fresh seed at hand, and writes what it leaves
behind.
-/

open PmacFabric

/-- A number that differs from run to run. -/
def freshSeed : IO Nat := do
  let bytes ← IO.getRandomBytes 8
  return bytes.toList.foldl (fun acc byte => 256 * acc + byte.toNat) 0

def main (arguments : List String) : IO UInt32 := do
  match CommandLine.parse arguments with
  | .error reason =>
    IO.eprint s!"error: {reason}\n"
    return 2
  | .ok request =>
    let outcome := CommandLine.outcome (simulate request.options (← freshSeed) .added)
    IO.print outcome.stdout
    IO.eprint outcome.stderr
    match request.jsonFile, outcome.report with
    | some file, some report => IO.FS.writeFile file (report.toJson.pretty "")
    | _, _ => pure ()
    return UInt32.ofNat outcome.exitCode
