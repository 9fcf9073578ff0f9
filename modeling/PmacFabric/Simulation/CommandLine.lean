import PmacFabric.Report.Json
import PmacFabric.Simulation.Basic

/-!
# The command line

`CommandLine.parse` reads the arguments, `CommandLine.outcome` says what a finished simulation
writes and returns. Options stand before the command; a value follows its option or is joined to it
(`--seed 7`, `--seed=7`, `-s 7`, `-s7`).
-/

namespace PmacFabric.CommandLine

/-- What a simulation leaves behind. -/
structure Outcome where
  exitCode : Nat
  stdout : String
  stderr : String
  report : Option Report

/-- A report is summed up on standard output; a failure is named on standard error. -/
def outcome : Except Simulation.Failure Report → Outcome
  | .ok report => ⟨0, report.summary ++ "\n", "", some report⟩
  | .error failure => ⟨1, "", "Error: " ++ failure.inspect ++ "\n", none⟩

/-- Reads a number below 2 ^ 64: an optional plus sign, then decimal digits. -/
def natural? (text : String) : Option Nat :=
  let digits :=
    match text.toList with
    | '+' :: rest => rest
    | cs => cs
  if digits.isEmpty || !digits.all Char.isDigit then none
  else
    let n := digits.foldl (fun acc c => 10 * acc + (c.toNat - '0'.toNat)) 0
    if n < UInt64.size then some n else none

/-- A complete request: a simulation and the file for its report. -/
structure Request where
  options : Simulation.Options
  jsonFile : Option String := none
deriving DecidableEq, Repr

/-- The options that take a value, each with a letter and a word. -/
inductive Setting where
  | k
  | seed
  | stopAfter
  | retries
  | json
  | flows
  | size
deriving DecidableEq, Repr

namespace Setting

def ofWord? : String → Option Setting
  | "k" => some .k
  | "seed" => some .seed
  | "stop-after" => some .stopAfter
  | "retries" => some .retries
  | "json" => some .json
  | "flows" => some .flows
  | "size" => some .size
  | _ => none

def ofLetter? : Char → Option Setting
  | 'k' => some .k
  | 's' => some .seed
  | 'r' => some .retries
  | 'n' => some .flows
  | _ => none

/-- Whether an option belongs to the traffic of a run, and so stands behind the command. -/
def isRunSetting : Setting → Bool
  | .flows | .size => true
  | _ => false

end Setting

/-- Reads an argument as an option, with the value that is joined to it. -/
def setting? (argument : String) : Option (Setting × Option String) :=
  match argument.toList with
  | '-' :: '-' :: word =>
    let name := word.takeWhile (· ≠ '=')
    let joined := (word.drop name.length).tail?.map String.ofList
    (Setting.ofWord? (String.ofList name)).map fun setting => (setting, joined)
  | '-' :: letter :: rest =>
    let value := match rest with
      | [] => none
      | '=' :: value => some (String.ofList value)
      | value => some (String.ofList value)
    (Setting.ofLetter? letter).map fun setting => (setting, value)
  | _ => none

/-- Reads the options at the front of the arguments. -/
def settings : List String → Except String (List (Setting × String) × List String)
  | [] => .ok ([], [])
  | argument :: rest =>
    match setting? argument with
    | none => .ok ([], argument :: rest)
    | some (setting, some value) =>
      (settings rest).map fun (found, others) => ((setting, value) :: found, others)
    | some (setting, none) =>
      match rest with
      | [] => .error s!"a value is required for '{argument}'"
      | value :: rest =>
        (settings rest).map fun (found, others) => ((setting, value) :: found, others)

/-- The value given last for an option. -/
def given (found : List (Setting × String)) (setting : Setting) : Option String :=
  (found.reverse.find? fun entry => entry.1 = setting).map Prod.snd

def number (found : List (Setting × String)) (setting : Setting) (usual : Nat) :
    Except String Nat :=
  match given found setting with
  | none => .ok usual
  | some text =>
    match natural? text with
    | some n => .ok n
    | none => .error s!"invalid value '{text}'"

/-- Reads the command and its own options. -/
def command : List String → Except String Simulation.Command
  | "run" :: arguments =>
    match settings arguments with
    | .error e => .error e
    | .ok (found, []) =>
      match found.find? fun entry => !entry.1.isRunSetting with
      | some (_, value) => .error s!"unexpected value '{value}'"
      | none =>
        match number found .flows 16, number found .size 64 with
        | .ok flows, .ok size => .ok (.run flows size)
        | .error e, _ => .error e
        | _, .error e => .error e
    | .ok (_, argument :: _) => .error s!"unexpected argument '{argument}'"
  | ["ping", src, dst] => .ok (.ping src dst)
  | "ping" :: _ => .error "ping takes the names of two hosts"
  | argument :: _ => .error s!"unknown command '{argument}'"
  | [] => .error "a command is required: run or ping"

/-- Reads the arguments. -/
def parse (arguments : List String) : Except String Request := do
  let (found, rest) ← settings arguments
  if found.any fun entry => entry.1.isRunSetting then
    throw "the options of a run stand behind the command"
  let k ← number found .k 4
  let stopAfter ← number found .stopAfter 100000
  let retries ← number found .retries 3
  let seed ← (match given found .seed with
    | none => pure none
    | some _ => some <$> number found .seed 0)
  let command ← command rest
  return { options := { k, seed, stopAfter, retries, command }, jsonFile := given found .json }

end PmacFabric.CommandLine
