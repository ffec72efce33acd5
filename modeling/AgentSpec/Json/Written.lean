import AgentSpec.Json.Printer
import AgentSpec.Json.Scan

/-!
Values that were written and read again.  Only binary64 numbers can change: reading rounds the
digits and the power of ten one after the other.  Writing has no limit to nesting and reading has
one, so a value can be written that is never read again.
-/
namespace AgentSpec

def JsonNumber.asWritten : JsonNumber → JsonNumber
  | .int n => .int n
  | .float x =>
    match Json.ofText? x.toText with
    | .ok (.number n) => n
    | _ => .float x

namespace Json

mutual

/-- The value that the value's text reads as. -/
def asWritten : Json → Json
  | .null => .null
  | .bool b => .bool b
  | .number n => .number n.asWritten
  | .string s => .string s
  | .array items => .array (itemsAsWritten items)
  | .object members => .object (membersAsWritten members)

def itemsAsWritten : List Json → List Json
  | [] => []
  | v :: rest => asWritten v :: itemsAsWritten rest

def membersAsWritten : List (String × Json) → List (String × Json)
  | [] => []
  | (k, v) :: rest => (k, asWritten v) :: membersAsWritten rest

end

mutual

/-- How many arrays and objects stand inside each other. -/
def depth : Json → Nat
  | .null | .bool _ | .number _ | .string _ => 0
  | .array items => itemsDepth items + 1
  | .object members => membersDepth members + 1

def itemsDepth : List Json → Nat
  | [] => 0
  | v :: rest => max (depth v) (itemsDepth rest)

def membersDepth : List (String × Json) → Nat
  | [] => 0
  | (_, v) :: rest => max (depth v) (membersDepth rest)

end

/-- The bytes of a key and its colon. -/
def keyBytes (k : String) : Nat := (quote k ++ ":").utf8ByteSize

mutual

/-- The bytes of the value's text in front of the first bracket or brace that stands inside so many
others. -/
def bytesBefore : Nat → Json → Nat
  | room + 1, .array items => 1 + itemsBytesBefore room items
  | room + 1, .object members => 1 + membersBytesBefore room members
  | _, _ => 0

def itemsBytesBefore : Nat → List Json → Nat
  | _, [] => 0
  | room, v :: rest =>
    if room < depth v then bytesBefore room v
    else (compact v).utf8ByteSize + 1 + itemsBytesBefore room rest

def membersBytesBefore : Nat → List (String × Json) → Nat
  | _, [] => 0
  | room, (k, v) :: rest =>
    if room < depth v then keyBytes k + bytesBefore room v
    else keyBytes k + (compact v).utf8ByteSize + 1 + membersBytesBefore room rest

end

/-- The flaw that a reader meets in the text of a value that is nested too deeply. -/
def tooDeep (j : Json) : Flaw := ⟨.tooDeep, ⟨1, j.bytesBefore Document.depthLimit + 1⟩⟩

end Json
end AgentSpec
