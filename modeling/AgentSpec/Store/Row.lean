import AgentSpec.Graph.Basic
import AgentSpec.Json.Record
import AgentSpec.Json.Written
import AgentSpec.Store.Error

/-!
The tables of the store.

Rows stand in the order in which they were written.  Structured values are kept as the JSON values
that were written; they are read as such unless their text is nested too deeply for a reader.  A
column that was overwritten from outside holds a text that has yet to prove itself.
-/
namespace AgentSpec

/-- A column for a structured value. -/
inductive Column
  | document (j : Json)
  /-- A text from outside. -/
  | foreign (text : String)
deriving DecidableEq, Repr

/-- A column for a number.  One that was overwritten from outside may hold something else. -/
inductive Cell
  | int (n : Int)
  | real (x : Binary64)
  /-- A number beyond the largest finite one. -/
  | infinite (negative : Bool)
  | text (s : String)
deriving DecidableEq, Repr

structure AgentRow where
  id : String
  name : String
  description : String
  ownerId : String
  rootModel : Option String
  connections : Column
  createdAt : String
  updatedAt : String
deriving DecidableEq, Repr

structure ModelRow where
  id : String
  agentId : String
  name : String
  fields : Column
  displayFields : Option Column
  forms : Column
  createdAt : String
deriving DecidableEq, Repr

structure ActionRow where
  id : String
  agentId : String
  modelId : String
  name : String
  title : String
  emoji : String
  description : String
  createdAt : String
deriving DecidableEq, Repr

structure StepRow where
  id : String
  actionId : String
  position : Cell
  name : String
  description : String
  kind : StepKind
  config : Column
  inputFields : Column
  outputFields : Column
  ready : Cell
  createdAt : String
deriving DecidableEq, Repr

structure ScheduleRow where
  id : String
  agentId : String
  name : String
  description : Option String
  mode : ScheduleMode
  intervalHours : Option Cell
  status : ScheduleStatus
  createdAt : String
deriving DecidableEq, Repr

structure TurnRow where
  id : String
  scheduleId : String
  modelId : String
  actionId : String
  query : Column
  order : Cell
  createdAt : String
deriving DecidableEq, Repr

structure Store where
  agents : List AgentRow := []
  models : List ModelRow := []
  actions : List ActionRow := []
  steps : List StepRow := []
  schedules : List ScheduleRow := []
  turns : List TurnRow := []
deriving DecidableEq, Repr

namespace Column

/-- The value of a column. -/
def read (r : Reader α) : Column → Except StoreError α
  | .document j =>
    if j.depth ≤ Document.depthLimit then (Reader.ofJson r j).mapError .json
    else .error (.json (.ofFlaw j.tooDeep))
  | .foreign text => (Reader.ofText r text).mapError .json

end Column

namespace Cell

def ofNat32 (n : UInt32) : Cell := .int n.toNat

def ofBool (b : Bool) : Cell := .int (if b then 1 else 0)

/-- A whole number strictly between the ends of 64 bits becomes an integer. -/
def narrow : Cell → Cell
  | .real x =>
    let (n, d) := x.signedFraction
    if n % d = 0 ∧ -(twoTo 63 : Int) < n / d ∧ n / d < twoTo 63 then .int (n / d) else .real x
  | c => c

/-- What the cell holds, as the engine calls it. -/
def typeName : Cell → String
  | .int _ => "INTEGER"
  | .real _ | .infinite _ => "REAL"
  | .text _ => "TEXT"

/-- The integer in a column that is read as `wanted`. -/
def readInt (column wanted : String) : Cell → Except StoreError Int
  | .int n => .ok n
  | c => .error (.mismatch column wanted c.typeName)

/-- A natural number of 32 bits. -/
def readNat32 (column wanted : String) (c : Cell) : Except StoreError UInt32 := do
  let n ← c.readInt column wanted
  if 0 ≤ n ∧ n < twoTo 32 then return UInt32.ofNat n.toNat
  throw (.outOfRange column n)

/-- A truth value: anything but zero, within 32 bits. -/
def readBool (column wanted : String) (c : Cell) : Except StoreError Bool := do
  let n ← c.readInt column wanted
  if -(twoTo 31 : Int) ≤ n ∧ n < twoTo 31 then return n != 0
  throw (.tooWide column)

/-- Numbers by their value come before texts by their characters. -/
def le : Cell → Cell → Bool
  | .text a, .text b => a ≤ b
  | .text _, _ => false
  | _, .text _ => true
  | .infinite a, .infinite b => a || !b
  | .infinite a, _ => a
  | _, .infinite b => !b
  | .int a, .int b => a ≤ b
  | .int a, .real x => let (n, d) := x.signedFraction; a * d ≤ n
  | .real x, .int b => let (n, d) := x.signedFraction; n ≤ b * d
  | .real x, .real y =>
    let (a, b) := x.signedFraction
    let (c, d) := y.signedFraction
    a * d ≤ c * b

end Cell
end AgentSpec
