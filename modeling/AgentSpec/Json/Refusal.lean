import AgentSpec.Json.Document
import AgentSpec.Text.Quoted

/-!
Why a document is refused as a value of some type.
-/
namespace AgentSpec

/-- What stands where something else was wanted. -/
inductive Found
  | null
  | bool (b : Bool)
  | integer (n : Int)
  | float (x : Binary64)
  | string (s : String)
  | sequence
  | map
deriving DecidableEq, Repr

/-- What was wanted. -/
inductive Wanted
  | string
  | boolean
  | sequence
  | map
  | unit
  | natural (type : String)
  /-- A record, by its full name, such as `struct Field`. -/
  | record (name : String)
  /-- A record of so many fields, given as an array. -/
  | recordOf (name : String) (fields : Nat)
  | tuple (size : Nat)
  | fewerItems
  | itemsExactly (n : Nat)
  | variant
  | singleKey
  | variantName
  | variantIndex (count : Nat)
  | tagged (name : String)
  | instant
deriving DecidableEq, Repr

inductive Cause
  | invalidType (found : Found) (wanted : Wanted)
  | invalidValue (found : Found) (wanted : Wanted)
  | invalidLength (n : Nat) (wanted : Wanted)
  | missingField (name : String)
  | duplicateField (name : String)
  | unknownVariant (name : String) (known : List String)
  /-- A text that is no date and time, with the reason. -/
  | badInstant (reason : String)
  /-- The text itself is at fault. -/
  | flaw (kind : FlawKind)
deriving DecidableEq, Repr

/-- A cause and, for values in a text, the place. -/
structure Refusal where
  cause : Cause
  place : Option Place
deriving DecidableEq, Repr

def Found.message : Found → String
  | .null => "null"
  | .bool b => s!"boolean `{b}`"
  | .integer n => s!"integer `{n}`"
  | .float x => s!"floating point `{x.toText}`"
  | .string s => "string " ++ Text.quoted s
  | .sequence => "sequence"
  | .map => "map"

/-- A count of things, one of them without the plural's s. -/
def counted (n : Nat) (thing : String) : String :=
  if n = 1 then s!"{n} {thing}" else s!"{n} {thing}s"

def Wanted.message : Wanted → String
  | .string => "a string"
  | .boolean => "a boolean"
  | .sequence => "a sequence"
  | .map => "a map"
  | .unit => "unit"
  | .natural type => type
  | .record name => name
  | .recordOf name n => name ++ " with " ++ counted n "element"
  | .tuple n => s!"a tuple of size {n}"
  | .fewerItems => "fewer elements in array"
  | .itemsExactly n => counted n "element" ++ " in sequence"
  | .variant => "string or map"
  | .singleKey => "map with a single key"
  | .variantName => "variant identifier"
  | .variantIndex n => s!"variant index 0 <= i < {n}"
  | .tagged name => "internally tagged enum " ++ name
  | .instant => "an RFC 3339 formatted date and time string"

/-- Names in backquotes: one alone, two joined by "or", more as a list. -/
def oneOf (names : List String) : String :=
  match names.map fun n => s!"`{n}`" with
  | [a] => a
  | [a, b] => a ++ " or " ++ b
  | all => "one of " ++ ", ".intercalate all

def Cause.message : Cause → String
  | .invalidType found wanted =>
    "invalid type: " ++ found.message ++ ", expected " ++ wanted.message
  | .invalidValue found wanted =>
    "invalid value: " ++ found.message ++ ", expected " ++ wanted.message
  | .invalidLength n wanted => s!"invalid length {n}, expected " ++ wanted.message
  | .missingField name => s!"missing field `{name}`"
  | .duplicateField name => s!"duplicate field `{name}`"
  | .unknownVariant name known => s!"unknown variant `{name}`, expected " ++ oneOf known
  | .badInstant reason => reason
  | .flaw kind => kind.message

def Refusal.message (r : Refusal) : String :=
  match r.place with
  | none => r.cause.message
  | some p => r.cause.message ++ s!" at line {p.line} column {p.column}"

namespace Refusal

def ofFlaw (f : Flaw) : Refusal := ⟨.flaw f.kind, some f.place⟩

/-- The refusal, at a place if it has none of its own. -/
def settle (at_ : Option Place) (r : Refusal) : Refusal :=
  { r with place := r.place <|> at_ }

end Refusal

namespace Document

def foundNumber : JsonNumber → Found
  | .int n => .integer n
  | .float x => .float x

/-- The refusal of a document where something else is wanted.  Single values are read before they
are refused, arrays and objects are not. -/
def reject (d : Document) (wanted : Wanted) : Refusal :=
  match d with
  | .null o => ⟨.invalidType .null wanted, o.stop?⟩
  | .bool o b => ⟨.invalidType (.bool b) wanted, o.stop?⟩
  | .number o n => ⟨.invalidType (foundNumber n) wanted, o.stop?⟩
  | .string o s => ⟨.invalidType (.string s) wanted, o.stop?⟩
  | .array o _ _ => ⟨.invalidType .sequence wanted, o.start?⟩
  | .object o _ _ => ⟨.invalidType .map wanted, o.start?⟩
  | .flawed _ _ flaw _ => .ofFlaw flaw

end Document
end AgentSpec
