import AgentSpec.CommandLine.EnvFile
import AgentSpec.CommandLine.Execution
import AgentSpec.Json.Printer
import AgentSpec.Store.Location
import Std.Time.DateTime.Timestamp

/-!
The program: variables, files, the clock and the terminal.

The store is kept as a journal in a file, which grows by the writes of every run.
-/
namespace AgentSpec.CommandLine

/-- The words of a text that may be names of variables. -/
def wordsOf (text : String) : List String :=
  text.splitToList fun c => !(c.isAlphanum || c == '_')

/-- The values of some variables of the environment. -/
def fetch (names : List String) : IO (List (String × String)) := do
  let found ← names.mapM fun name => do
    let value ← IO.getEnv name
    return value.map (name, ·)
  return found.filterMap id

/-- Why a file cannot be read, with the number of the error. -/
def reason : IO.Error → String
  | .noFileOrDirectory .. => "No such file or directory (os error 2)"
  | .permissionDenied .. => "Permission denied (os error 13)"
  | .inappropriateType .. => "Is a directory (os error 21)"
  | e => toString e

/-- The text of a file, or why it cannot be read. -/
def readText (path : String) : IO (Except String String) := do
  try
    return .ok (← IO.FS.readFile path)
  catch e =>
    return .error (reason e)

/-- The current time. -/
def now : IO Instant := do
  let t ← Std.Time.Timestamp.now
  let seconds : Int := t.toSecondsSinceUnixEpoch.val
  let nanoseconds : Int := t.toNanosecondsSinceUnixEpoch.val
  return ⟨seconds.fdiv 86400, (seconds.fmod 86400).toNat, (nanoseconds.fmod 1000000000).toNat⟩

/-- An instant some nanoseconds later. -/
def later (t : Instant) (n : Nat) : Instant :=
  let nano := t.nano + n
  let second := t.second + nano / 1000000000
  ⟨t.day + (second / 86400 : Nat), second % 86400, nano % 1000000000⟩

/-- An identifier of eight digits and small letters. -/
def identifier (n : Nat) : String := String.ofList (digits 8 n)
where
  digit (i : Nat) : Char := if i < 10 then Char.ofNat (48 + i) else Char.ofNat (87 + i)
  digits : Nat → Nat → List Char
    | 0, _ => []
    | k + 1, n => digit (n % 36) :: digits k (n / 36)

/-- The number of identifiers. -/
def identifiers : Nat := 2821109907456

def rowCount (s : Store) : Nat :=
  s.agents.length + s.models.length + s.actions.length + s.steps.length + s.schedules.length +
    s.turns.length

/-- The files that a command reads. -/
def inputs : Command → List String
  | .compile input _ _ | .update _ input _ _ => [input]
  | _ => []

/-- The journal of a store's file; a file that is not there is an empty one. -/
def readJournal (path : String) : IO Journal := do
  match ← readText path with
  | .error _ => return []
  | .ok text =>
    match Journal.ofLines (Text.lines text) with
    | .ok j => return j
    | .error e => throw (IO.userError e.message)

/-- Put the writes of a run behind a journal. -/
def keep (directory path : String) (entries : Journal) : IO Unit := do
  unless entries.writes.isEmpty do
    IO.FS.createDirAll directory
    let h ← IO.FS.Handle.mk path .append
    entries.writes.forM fun e => h.putStrLn e.line

def printLines (put : String → IO Unit) (ls : List String) : IO Unit := ls.forM put

def usage : List String :=
  ["Usage: foundry [--log-level <LOG_LEVEL>] <COMMAND>", "",
    "Commands:",
    "  compile  --input <FILE> [--owner <OWNER>] [--json]",
    "  update   --agent <ID> --input <FILE> [--owner <OWNER>] [--json]",
    "  show     <ID> [--json]",
    "  list     [--owner <OWNER>] [--json]"]

/-- Run a command against the stored journal. -/
def runCommand (command : Command) : IO Nat := do
  let file ← readText ".env"
  let text := match file with
    | .ok text => text
    | .error _ => ""
  let inherited ← fetch
    (["HOME", Settings.timeoutVariable, Settings.codegenVariable, Settings.connectionsVariable,
      Store.pathVariable, Assistant.keyVariable, Assistant.modelVariable] ++ wordsOf text)
  let known := inherited ++ EnvFile.ofText (fun name => List.lookup name inherited) text
  let lookup (name : String) : Option String := List.lookup name known
  let home := (lookup "HOME").getD ""
  let path := (Store.Options.ofVariables home lookup).path
  let texts ← (inputs command).mapM fun name => do return (name, ← readText name)
  let start ← now
  let seed ← IO.rand 0 (identifiers - 1)
  let setting : Setting :=
    { lookup
      file := fun name => (List.lookup name texts).getD (.error (reason (.userError name)))
      name := fun s _ => identifier (seed + rowCount s)
      time := later start
      send := fun _ => .unreachable }
  let journal ← readJournal path
  let (printed, world) := command.run setting { store := journal.store, journal }
  keep (Store.homeDirectory home) path (world.journal.drop journal.length)
  match printed.out with
  | .lines ls => printLines IO.println ls
  | .json j => IO.println j.pretty
  printLines IO.eprintln printed.complaints
  return printed.code

end AgentSpec.CommandLine

open AgentSpec.CommandLine in
def main (args : List String) : IO UInt32 := do
  match Command.ofArguments args with
  | .ok command => return (← runCommand command).toUInt32
  | .error .version => do
    IO.println "foundry 0.1.0"
    return 0
  | .error aside => do
    printLines (if aside = .help then IO.println else IO.eprintln) usage
    return aside.exitCode.toUInt32
