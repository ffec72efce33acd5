import AgentSpec.Json.Basic
import AgentSpec.Json.Flaw

/-!
Documents: JSON values as a reader meets them.

A value may be held in memory, stand in a text that goes wrong further on, or have been set aside
while the rest of its object was read.  The three differ in the words and the place that a refusal
gets, so every node says where it comes from.  A text with a flaw is a document too: what stands
before the flaw is there, and whoever reads on meets it.
-/
namespace AgentSpec

inductive Origin
  | memory
  | setAside
  | text (start stop : Place)
deriving DecidableEq, Repr

namespace Origin

/-- Where the value begins, if it stands in a text. -/
def start? : Origin → Option Place
  | .text p _ => some p
  | _ => none

/-- Where the value ends, if it stands in a text. -/
def stop? : Origin → Option Place
  | .text _ p => some p
  | _ => none

end Origin

/-- Where a text goes wrong between the parts of an array or object.  What is wrong there depends on
what is wanted: the next part, to skip over all that is left, or the end. -/
structure Break where
  reading : Flaw
  skipping : Flaw
  closing : Flaw
deriving DecidableEq, Repr

/-- The same flaw for everyone. -/
def Break.all (flaw : Flaw) : Break := ⟨flaw, flaw, flaw⟩

/-- A key: its name, or the flaw in it. -/
structure Key where
  name : Except Flaw String
  /-- What skipping over the key meets. -/
  skipped : Option Flaw := none
  /-- Where the key ends, where its colon is looked for and where the text goes on behind its
  value. -/
  stop : Option Place := none
  colon : Option Place := none
  behind : Option Place := none

/-- A key held in memory. -/
def Key.named (name : String) : Key := { name := .ok name }

inductive Document
  | null (o : Origin)
  | bool (o : Origin) (b : Bool)
  | number (o : Origin) (n : JsonNumber)
  | string (o : Origin) (s : String)
  /-- The items, and the break behind the last one if the text goes wrong there. -/
  | array (o : Origin) (items : List Document) (cut : Option Break)
  /-- The members.  A key that is no string has the value beside it that stands in its place. -/
  | object (o : Origin) (members : List (Key × Document)) (cut : Option Break)
  /-- A value that cannot be read, and its first character where one begins.  Skipping over it meets
  `skipped`, if anything. -/
  | flawed (start : Place) (lead : Option Char) (flaw : Flaw) (skipped : Option Flaw)

namespace Document

mutual

/-- A value held in memory. -/
def ofJson : Json → Document
  | .null => .null .memory
  | .bool b => .bool .memory b
  | .number n => .number .memory n
  | .string s => .string .memory s
  | .array items => .array .memory (ofItems items) none
  | .object members => .object .memory (ofMembers members) none

def ofItems : List Json → List Document
  | [] => []
  | v :: rest => ofJson v :: ofItems rest

def ofMembers : List (String × Json) → List (Key × Document)
  | [] => []
  | (k, v) :: rest => (.named k, ofJson v) :: ofMembers rest

end

/-- Where a value begins that is no choice, because it begins like none.  A choice begins with a
quote or a brace. -/
def unread? : Document → Option Place
  | .null o | .bool o _ | .number o _ | .string o _ | .array o _ _ | .object o _ _ => o.start?
  | .flawed start lead _ _ =>
    match lead with
    | none | some '"' | some '\x7b' => none
    | some _ => some start

mutual

/-- The flaw that skipping over a value meets. -/
def skip : Document → Option Flaw
  | .array _ items cut => skipItems cut items
  | .object _ members cut => skipMembers cut members
  | .flawed _ _ _ skipped => skipped
  | _ => none

def skipItems (cut : Option Break) : List Document → Option Flaw
  | [] => cut.map (·.skipping)
  | d :: rest => d.skip <|> skipItems cut rest

def skipMembers (cut : Option Break) : List (Key × Document) → Option Flaw
  | [] => cut.map (·.skipping)
  | (k, d) :: rest => k.skipped <|> d.skip <|> skipMembers cut rest

end

mutual

/-- The value, read completely; of equal keys the last one counts. -/
def toJson : Document → Except Flaw Json
  | .null _ => .ok .null
  | .bool _ b => .ok (.bool b)
  | .number _ n => .ok (.number n)
  | .string _ s => .ok (.string s)
  | .array _ items cut => do return .array (← itemsToJson cut items)
  | .object _ members cut => do return .ofMembers (← membersToJson cut members)
  | .flawed _ _ flaw _ => .error flaw

def itemsToJson (cut : Option Break) : List Document → Except Flaw (List Json)
  | [] => match cut with
    | some b => .error b.reading
    | none => .ok []
  | d :: rest => do
    let v ← d.toJson
    return v :: (← itemsToJson cut rest)

def membersToJson (cut : Option Break) :
    List (Key × Document) → Except Flaw (List (String × Json))
  | [] => match cut with
    | some b => .error b.reading
    | none => .ok []
  | (k, d) :: rest => do
    let name ← k.name
    let v ← d.toJson
    return (name, v) :: (← membersToJson cut rest)

end

mutual

/-- The value set aside, which reads it completely. -/
def setAside : Document → Except Flaw Document
  | .null _ => .ok (.null .setAside)
  | .bool _ b => .ok (.bool .setAside b)
  | .number _ n => .ok (.number .setAside n)
  | .string _ s => .ok (.string .setAside s)
  | .array _ items cut => do return .array .setAside (← setItemsAside cut items) none
  | .object _ members cut => do return .object .setAside (← setMembersAside cut members) none
  | .flawed _ _ flaw _ => .error flaw

def setItemsAside (cut : Option Break) : List Document → Except Flaw (List Document)
  | [] => match cut with
    | some b => .error b.reading
    | none => .ok []
  | d :: rest => do
    let v ← d.setAside
    return v :: (← setItemsAside cut rest)

def setMembersAside (cut : Option Break) :
    List (Key × Document) → Except Flaw (List (Key × Document))
  | [] => match cut with
    | some b => .error b.reading
    | none => .ok []
  | (k, d) :: rest => do
    let name ← k.name
    let v ← d.setAside
    return (.named name, v) :: (← setMembersAside cut rest)

end

end Document
end AgentSpec
