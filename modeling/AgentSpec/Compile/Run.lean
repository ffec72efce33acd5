import AgentSpec.Compile.Basic
import AgentSpec.Program.Run

/-!
Runs of a compiler: what a request ends with, and the tables and the record of the run after it.
-/
namespace AgentSpec.Compiler

/-- The error of a run that has no result; one that waits for ever ends when its time is over. -/
def errorOf (c : Compiler) : Stop → CompileError
  | .failed e => e
  | .hung => .timeout c.settings.updateTimeoutMillis

/-- Run a program from a state of the tables. -/
def perform (c : Compiler) (env : Surroundings) (p : Program α) (w : World) :
    Except CompileError α × World :=
  let (result, after) := (p.run env).run w
  (result.mapError c.errorOf, after)

end AgentSpec.Compiler
