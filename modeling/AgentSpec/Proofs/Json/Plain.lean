import AgentSpec.Json.Record
import AgentSpec.Json.Written
import AgentSpec.Proofs.Names

/-!
Documents without a flaw.

A value held in memory and one that was set aside are read alike, so what is said of readers here is
said of both.  Main statements: setting a value aside leaves it the same value
(`Document.setAside_plain`), and a value that lists its members in order and has no binary64 numbers
is read as itself (`Document.toJson_plain`, `Json.canonical_asWritten`).
-/
namespace AgentSpec

namespace Document

mutual

/-- The document of a value, with one origin for all its nodes. -/
def plain (o : Origin) : Json → Document
  | .null => .null o
  | .bool b => .bool o b
  | .number n => .number o n
  | .string s => .string o s
  | .array items => .array o (plainItems o items) none
  | .object members => .object o (plainMembers o members) none

def plainItems (o : Origin) : List Json → List Document
  | [] => []
  | v :: rest => plain o v :: plainItems o rest

def plainMembers (o : Origin) : List (String × Json) → List (Key × Document)
  | [] => []
  | (k, v) :: rest => (.named k, plain o v) :: plainMembers o rest

end

mutual

theorem ofJson_eq_plain : (j : Json) → ofJson j = plain .memory j
  | .null | .bool _ | .number _ | .string _ => rfl
  | .array items => by rw [ofJson, plain, ofItems_eq_plain items]
  | .object members => by rw [ofJson, plain, ofMembers_eq_plain members]

theorem ofItems_eq_plain : (items : List Json) → ofItems items = plainItems .memory items
  | [] => rfl
  | v :: rest => by rw [ofItems, plainItems, ofJson_eq_plain v, ofItems_eq_plain rest]

theorem ofMembers_eq_plain :
    (members : List (String × Json)) → ofMembers members = plainMembers .memory members
  | [] => rfl
  | (k, v) :: rest => by rw [ofMembers, plainMembers, ofJson_eq_plain v, ofMembers_eq_plain rest]

end

mutual

theorem setAside_plain (o : Origin) : (j : Json) → (plain o j).setAside = .ok (plain .setAside j)
  | .null | .bool _ | .number _ | .string _ => rfl
  | .array items => by rw [plain, setAside, setItemsAside_plain o items]; rfl
  | .object members => by rw [plain, setAside, setMembersAside_plain o members]; rfl

theorem setItemsAside_plain (o : Origin) : (items : List Json) →
    setItemsAside none (plainItems o items) = .ok (plainItems .setAside items)
  | [] => rfl
  | v :: rest => by
    rw [plainItems, setItemsAside, setAside_plain o v, setItemsAside_plain o rest]
    rfl

theorem setMembersAside_plain (o : Origin) : (members : List (String × Json)) →
    setMembersAside none (plainMembers o members) = .ok (plainMembers .setAside members)
  | [] => rfl
  | (k, v) :: rest => by
    rw [plainMembers, setMembersAside, setAside_plain o v, setMembersAside_plain o rest]
    rfl

end

mutual

theorem skip_plain (o : Origin) : (j : Json) → (plain o j).skip = none
  | .null | .bool _ | .number _ | .string _ => rfl
  | .array items => by rw [plain, skip, skipItems_plain o items]
  | .object members => by rw [plain, skip, skipMembers_plain o members]

theorem skipItems_plain (o : Origin) :
    (items : List Json) → skipItems none (plainItems o items) = none
  | [] => rfl
  | v :: rest => by rw [plainItems, skipItems, skip_plain o v, skipItems_plain o rest]; rfl

theorem skipMembers_plain (o : Origin) :
    (members : List (String × Json)) → skipMembers none (plainMembers o members) = none
  | [] => rfl
  | (k, v) :: rest => by
    rw [plainMembers, skipMembers, skip_plain o v, skipMembers_plain o rest]
    rfl

end

end Document

/-! ## Values that are read completely -/

namespace Json

mutual

/-- The value with the members of each object in order, the last of equal keys kept. -/
def canonical : Json → Json
  | .null => .null
  | .bool b => .bool b
  | .number n => .number n
  | .string s => .string s
  | .array items => .array (canonicalItems items)
  | .object members => .ofMembers (canonicalMembers members)

def canonicalItems : List Json → List Json
  | [] => []
  | v :: rest => canonical v :: canonicalItems rest

def canonicalMembers : List (String × Json) → List (String × Json)
  | [] => []
  | (k, v) :: rest => (k, canonical v) :: canonicalMembers rest

end

mutual

/-- No number in the value is a binary64. -/
def FloatFree : Json → Prop
  | .null | .bool _ | .string _ => True
  | .number (.int _) => True
  | .number (.float _) => False
  | .array items => FloatFreeItems items
  | .object members => FloatFreeMembers members

def FloatFreeItems : List Json → Prop
  | [] => True
  | v :: rest => FloatFree v ∧ FloatFreeItems rest

def FloatFreeMembers : List (String × Json) → Prop
  | [] => True
  | (_, v) :: rest => FloatFree v ∧ FloatFreeMembers rest

end

mutual

theorem asWritten_of_floatFree : (j : Json) → j.FloatFree → j.asWritten = j
  | .null, _ | .bool _, _ | .string _, _ | .number (.int _), _ => rfl
  | .array items, h => by rw [asWritten, itemsAsWritten_of_floatFree items h]
  | .object members, h => by rw [asWritten, membersAsWritten_of_floatFree members h]

theorem itemsAsWritten_of_floatFree : (items : List Json) → FloatFreeItems items →
    itemsAsWritten items = items
  | [], _ => rfl
  | v :: rest, h => by
    rw [itemsAsWritten, asWritten_of_floatFree v h.1, itemsAsWritten_of_floatFree rest h.2]

theorem membersAsWritten_of_floatFree : (members : List (String × Json)) →
    FloatFreeMembers members → membersAsWritten members = members
  | [], _ => rfl
  | (k, v) :: rest, h => by
    rw [membersAsWritten, asWritten_of_floatFree v h.1, membersAsWritten_of_floatFree rest h.2]

end

end Json

namespace Document

mutual

theorem toJson_plain (o : Origin) : (j : Json) → (plain o j).toJson = .ok j.canonical
  | .null | .bool _ | .number _ | .string _ => rfl
  | .array items => by rw [plain, toJson, itemsToJson_plain o items]; rfl
  | .object members => by rw [plain, toJson, membersToJson_plain o members]; rfl

theorem itemsToJson_plain (o : Origin) : (items : List Json) →
    itemsToJson none (plainItems o items) = .ok (Json.canonicalItems items)
  | [] => rfl
  | v :: rest => by
    rw [plainItems, itemsToJson, toJson_plain o v, itemsToJson_plain o rest]
    rfl

theorem membersToJson_plain (o : Origin) : (members : List (String × Json)) →
    membersToJson none (plainMembers o members) = .ok (Json.canonicalMembers members)
  | [] => rfl
  | (k, v) :: rest => by
    rw [plainMembers, membersToJson, toJson_plain o v, membersToJson_plain o rest]
    rfl

end

end Document
end AgentSpec
