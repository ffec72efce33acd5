import AgentSpec.Json.Basic
import AgentSpec.Text.Blank

/-!
Where the store's file lies and how it is opened.
-/
namespace AgentSpec.Store

/-- A path below a directory. -/
def below (directory name : String) : String :=
  if directory.isEmpty then name
  else if directory.endsWith "/" then directory ++ name
  else directory ++ "/" ++ name

/-- The program's directory in a home directory. -/
def homeDirectory (home : String) : String := below home ".foundry"

/-- The file of the store where no other is named. -/
def defaultFile (home : String) : String := below (homeDirectory home) "foundry.db"

def pathVariable : String := "FOUNDRY_DATABASE_PATH"

structure Options where
  path : String
  writeAheadLog : Bool := true
  maxConnections : Nat := 10
  busyTimeoutSeconds : Nat := 30
deriving DecidableEq, Repr

namespace Options

/-- The file named by a variable, unless that is blank, or else the default one. -/
def ofVariables (home : String) (lookup : String → Option String) : Options where
  path := ((lookup pathVariable).filter (!Text.isBlank ·)).getD (defaultFile home)

def toJson (o : Options) : Json :=
  .ofMembers
    [("path", .string o.path), ("enable_wal", .bool o.writeAheadLog),
      ("max_connections", .nat o.maxConnections),
      ("busy_timeout_seconds", .nat o.busyTimeoutSeconds)]

end Options
end AgentSpec.Store
