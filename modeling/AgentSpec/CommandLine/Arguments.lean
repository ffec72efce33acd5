/-!
The arguments of the command line.

An option takes its value from behind an equals sign, or from the next argument if that does not
look like an option itself.  No option may be given twice.  Arguments are read from left to right,
so whatever comes first, a fault or a question for help, decides.
-/
namespace AgentSpec.CommandLine

inductive Command
  /-- Compile a new agent from a request file. -/
  | compile (input : String) (owner : Option String) (json : Bool)
  /-- Add to an agent what a request file says. -/
  | update (agentId input : String) (owner : Option String) (json : Bool)
  /-- Show an agent with all its entities. -/
  | view (agentId : String) (json : Bool)
  /-- List the agents of an owner. -/
  | list (owner : Option String) (json : Bool)
deriving DecidableEq, Repr

/-- What arguments can mean instead of a command. -/
inductive Aside
  | help
  | version
  /-- The arguments make no sense. -/
  | usage
deriving DecidableEq, Repr

def Aside.exitCode : Aside → Nat
  | .help | .version => 0
  | .usage => 2

inductive OptionKind
  | value (mayBeEmpty : Bool)
  | flag
  | aside (a : Aside)
deriving DecidableEq, Repr

structure OptionRule where
  long : String
  short : Option Char := none
  kind : OptionKind
deriving DecidableEq, Repr

/-- What may stand among the arguments of the program or of one command. -/
structure Grammar where
  options : List OptionRule
  /-- Names that end the program's own arguments. -/
  commands : List String := []
  /-- One argument may stand without an option. -/
  free : Bool := false
deriving DecidableEq, Repr

/-- What has been read so far. -/
structure Reading where
  values : List (String × String) := []
  free : Option String := none
deriving DecidableEq, Repr

namespace Reading

def value? (r : Reading) (name : String) : Option String := r.values.lookup name

def has (r : Reading) (name : String) : Bool := (r.value? name).isSome

/-- A value that must be there. -/
def needed (r : Reading) (name : String) : Except Aside String :=
  match r.value? name with
  | some v => .ok v
  | none => .error .usage

def insert (r : Reading) (name value : String) : Except Aside Reading :=
  if r.has name then .error .usage else .ok { r with values := (name, value) :: r.values }

end Reading

/-- The argument begins like an option; a lone hyphen does not. -/
def looksLikeOption (arg : String) : Bool :=
  match arg.toList with
  | '-' :: _ :: _ => true
  | _ => false

namespace Grammar

/-- The option that an argument names, and the value that is attached to it. -/
def option? (g : Grammar) (arg : String) : Option (OptionRule × Option String) :=
  match arg.toList with
  | '-' :: '-' :: rest => do
    let rule ← g.options.find? (·.long.toList == rest.takeWhile (· != '='))
    return (rule, match rest.dropWhile (· != '=') with
      | _ :: value => some (String.ofList value)
      | [] => none)
  | '-' :: c :: rest => do
    let rule ← g.options.find? (·.short == some c)
    return (rule, match rule.kind, rest with
      | .value _, '=' :: value => some (String.ofList value)
      | .value _, _ :: _ => some (String.ofList rest)
      | _, _ => none)
  | _ => none

/-- An argument without an option. -/
def takeFree (g : Grammar) (r : Reading) (arg : String) : Except Aside Reading :=
  if g.free && r.free.isNone then .ok { r with free := some arg } else .error .usage

/-- Take the value of an option. -/
def takeValue (rule : OptionRule) (mayBeEmpty : Bool) (value : String) (r : Reading) :
    Except Aside Reading :=
  if value.isEmpty && !mayBeEmpty then .error .usage else r.insert rule.long value

/-- Read arguments up to the name of a command, which is left with all that follows it. -/
def read (g : Grammar) (r : Reading) : List String → Except Aside (Reading × List String)
  | [] => .ok (r, [])
  | arg :: rest =>
    if arg = "--" then do return (← rest.foldlM g.takeFree r, [])
    else if looksLikeOption arg then
      match g.option? arg with
      | none => .error .usage
      | some (rule, attached) =>
        match rule.kind, attached with
        | .aside a, none => .error a
        | .flag, none => do read g (← r.insert rule.long "") rest
        | .value mayBeEmpty, some v => do read g (← takeValue rule mayBeEmpty v r) rest
        | .value mayBeEmpty, none =>
          match rest with
          | [] => .error .usage
          | v :: rest =>
            if looksLikeOption v then .error .usage
            else do read g (← takeValue rule mayBeEmpty v r) rest
        | _, some _ => .error .usage
    else if g.commands.contains arg then .ok (r, arg :: rest)
    else do read g (← g.takeFree r arg) rest

end Grammar

def help : OptionRule := { long := "help", short := some 'h', kind := .aside .help }
def version : OptionRule := { long := "version", short := some 'V', kind := .aside .version }
def logLevel : OptionRule := { long := "log-level", kind := .value true }
def input : OptionRule := { long := "input", short := some 'i', kind := .value false }
def owner : OptionRule := { long := "owner", kind := .value true }
def agent : OptionRule := { long := "agent", kind := .value true }
def json : OptionRule := { long := "json", kind := .flag }

def commandNames : List String := ["compile", "update", "show", "list", "help"]

/-- The arguments before the command. -/
def program : Grammar where
  options := [help, version, logLevel]
  commands := commandNames

/-- The command of a name, read from the arguments behind it. -/
def Command.read (name : String) (args : List String) : Except Aside Command := do
  let reading (options : List OptionRule) (free : Bool) : Except Aside Reading :=
    (Grammar.read { options := help :: logLevel :: options, free } {} args).map (·.1)
  match name with
  | "compile" =>
    let r ← reading [input, owner, json] false
    return .compile (← r.needed "input") (r.value? "owner") (r.has "json")
  | "update" =>
    let r ← reading [agent, input, owner, json] false
    return .update (← r.needed "agent") (← r.needed "input") (r.value? "owner") (r.has "json")
  | "show" =>
    let r ← reading [json] true
    match r.free with
    | some id => return .view id (r.has "json")
    | none => throw .usage
  | "list" =>
    let r ← reading [owner, json] false
    return .list (r.value? "owner") (r.has "json")
  | _ => throw .usage

/-- The command of all the arguments. -/
def Command.ofArguments (args : List String) : Except Aside Command := do
  match ← program.read {} args with
  | (_, []) => throw .usage
  | (_, "help" :: names) =>
    throw (if names.length ≤ 1 && names.all commandNames.contains then .help else .usage)
  | (_, name :: rest) => Command.read name rest

end AgentSpec.CommandLine
