import AgentSpec.Json.Reader
import AgentSpec.Json.Scan

/-!
Readers of records.

A record's fields are given by name, as the members of an object, or by position, as the items of an
array.  Several of them may be at fault.  A reader goes through what is given in order and asks for
missing fields at the end, so each problem shows at a moment of its own, and the earliest one is the
reason to refuse the record.  Its parts are read independently and then combined.
-/
namespace AgentSpec

structure Problem where
  moment : Nat
  refusal : Refusal
deriving DecidableEq, Repr

/-- One part of a record, or the first problem with it. -/
def Part (α : Type) := Except Problem α

namespace Part

def ok (a : α) : Part α := Except.ok a

def fail (p : Problem) : Part α := Except.error p

def ofExcept (moment : Nat) : Except Refusal α → Part α
  | .ok a => .ok a
  | .error r => .fail ⟨moment, r⟩

def map (f : α → β) : Part α → Part β
  | .ok a => .ok (f a)
  | .error p => .fail p

/-- Both parts, or the earlier problem of the two. -/
def both : Part (α → β) → Part α → Part β
  | .ok f, .ok a => .ok (f a)
  | .ok _, .error q => .fail q
  | .error p, .ok _ => .fail p
  | .error p, .error q => .fail (if q.moment < p.moment then q else p)

instance : Applicative Part where
  pure := .ok
  map := .map
  seq f x := f.both (x ())

end Part

/-- The fields of a record as they are given. -/
inductive Given
  | members (ms : List (Key × Document))
  /-- Items of the array that stands for a record with so many fields. -/
  | items (record : String) (fields : Nat) (ds : List Document)

/-- What is given for one field. -/
inductive Slot
  | absent (missing : Problem) (byName : Bool)
  | present (moment : Nat) (d : Document) (again : Option Problem)

/-- Members with a name, each with its index. -/
def membersNamed (name : String) : Nat → List (Key × Document) → List (Nat × Key × Document)
  | _, [] => []
  | i, (k, d) :: rest =>
    match k.name with
    | .ok n => if n = name then (i, k, d) :: membersNamed name (i + 1) rest
               else membersNamed name (i + 1) rest
    | .error _ => membersNamed name (i + 1) rest

namespace Given

/-- What is given for the field at a position of the record, which has a name there. -/
def slot (g : Given) (position : Nat) (name : String) : Slot :=
  match g with
  | .members ms =>
    match membersNamed name 0 ms with
    | [] => .absent ⟨ms.length + 1 + position, ⟨.missingField name, none⟩⟩ true
    | [(i, _, d)] => .present i d none
    | (i, _, d) :: (j, k, _) :: _ => .present i d (some ⟨j, ⟨.duplicateField name, k.colon⟩⟩)
  | .items record fields ds =>
    match ds[position]? with
    | some d => .present position d none
    | none =>
      .absent ⟨position, ⟨.invalidLength position (.recordOf record fields), none⟩⟩ false

/-- The value of a present field. -/
def value (r : Reader α) (moment : Nat) (d : Document) (again : Option Problem) : Part α :=
  match again with
  | none => .ofExcept moment (r d)
  | some p => (.fail p : Part (α → α)).both (.ofExcept moment (r d))

/-- A field that must be given. -/
def required (g : Given) (position : Nat) (name : String) (r : Reader α) : Part α :=
  match g.slot position name with
  | .absent missing _ => .fail missing
  | .present moment d again => value r moment d again

/-- A field with a value for its absence. -/
def withDefault (g : Given) (position : Nat) (name : String) (default : α) (r : Reader α) :
    Part α :=
  match g.slot position name with
  | .absent _ _ => .ok default
  | .present moment d again => value r moment d again

/-- A field that may be null or absent. -/
def optional (g : Given) (position : Nat) (name : String) (r : Reader α) : Part (Option α) :=
  g.withDefault position name none (Reader.option r)

/-- A field that may be null, or absent where fields go by name. -/
def nullable (g : Given) (position : Nat) (name : String) (r : Reader α) : Part (Option α) :=
  match g.slot position name with
  | .absent missing byName => if byName then .ok none else .fail missing
  | .present moment d again => value (Reader.option r) moment d again

end Given

namespace Reader

/-- The first flaw outside the known fields: in a key, in a value that is skipped, or behind the
last member. -/
def strayFlaw (known : List String) (cut : Option Break) : Nat → List (Key × Document) →
    Option Problem
  | i, [] => cut.map fun b => ⟨i, .ofFlaw b.reading⟩
  | i, (k, d) :: rest =>
    match k.name with
    | .error f => some ⟨i, .ofFlaw f⟩
    | .ok name =>
      match (if known.contains name then none else d.skip) with
      | some f => some ⟨i, .ofFlaw f⟩
      | none => strayFlaw known cut (i + 1) rest

/-- A part, with a problem outside it that shows at its own moment. -/
def besides (stray : Option Problem) (p : Part α) : Part α :=
  match stray with
  | none => p
  | some q => (.fail q : Part (α → α)).both p

/-- The outcome of a record that ends at a place. -/
def settled (stop : Option Place) : Part α → Except Refusal α
  | .ok a => .ok a
  | .error p => .error (p.refusal.settle stop)

/-- The refusal of an array with more items than the record has fields. -/
def tooLong (o : Origin) (fields : Nat) (ds : List Document) : Refusal :=
  match o with
  | .memory => ⟨.invalidLength ds.length .fewerItems, none⟩
  | .setAside => ⟨.invalidLength ds.length (.itemsExactly fields), none⟩
  | .text _ _ =>
    ⟨.flaw .trailingCharacters, (ds[fields]?.bind start?).map fun p => ⟨p.line, p.column + 1⟩⟩
where
  start? : Document → Option Place
    | .null o | .bool o _ | .number o _ | .string o _ | .array o _ _ | .object o _ _ => o.start?
    | .flawed p _ _ _ => some p

/-- A record with the given fields, by name or by position. -/
def record (name : String) (fields : List String) (build : Given → Part α) : Reader α
  | .object o ms cut => settled o.stop? (besides (strayFlaw fields cut 0 ms) (build (.members ms)))
  | .array o ds cut =>
    let stray := if ds.length < fields.length
      then cut.map fun b => ⟨ds.length, .ofFlaw b.reading⟩ else none
    match settled o.stop? (besides stray (build (.items name fields.length ds))) with
    | .error r => .error r
    | .ok a =>
      if fields.length < ds.length then .error (tooLong o fields.length ds)
      else match cut with
        | some b => .error (.ofFlaw b.closing)
        | none => .ok a
  | d => .error (d.reject (.record name))

/-- The members outside the known fields, set aside, or the first flaw among them. -/
def others (known : List String) (cut : Option Break) : Nat → List (Key × Document) →
    Except Problem (List (Key × Document))
  | i, [] => match cut with
    | some b => .error ⟨i, .ofFlaw b.reading⟩
    | none => .ok []
  | i, (k, d) :: rest =>
    match k.name with
    | .error f => .error ⟨i, .ofFlaw f⟩
    | .ok name =>
      if known.contains name then others known cut (i + 1) rest
      else match d.setAside with
        | .error f => .error ⟨i, .ofFlaw f⟩
        | .ok v => (others known cut (i + 1) rest).map ((.named name, v) :: ·)

/-- A record that has fields of its own and shares its object with another value.  The members that
are not its own are set aside for that value, which is read last. -/
def openRecord (name : String) (fields : List String) (inner : Reader β)
    (build : Given → Part (β → α)) : Reader α
  | .object o ms cut =>
    settled o.stop? <|
      match others fields cut 0 ms with
      | .error p => (build (.members ms)).both (.fail p)
      | .ok rest =>
        (build (.members ms)).both
          (.ofExcept (ms.length + 1 + fields.length) (inner (.object .setAside rest none)))
  | d => .error (d.reject (.record name))

/-- The choice that a tag makes among the members, and the other members, set aside. -/
def splitTag (tagName : String) (choices : List (String × α)) (cut : Option Break) :
    Option α → List (Key × Document) → Except Refusal (α × List (Key × Document))
  | chosen, [] =>
    match cut, chosen with
    | some b, _ => .error (.ofFlaw b.reading)
    | none, none => .error ⟨.missingField tagName, none⟩
    | none, some a => .ok (a, [])
  | chosen, (k, d) :: rest => do
    let name ← k.name.mapError .ofFlaw
    if name = tagName then
      match chosen with
      | some _ => .error ⟨.duplicateField tagName, k.colon⟩
      | none => splitTag tagName choices cut (some (← tag choices d)) rest
    else
      let v ← d.setAside.mapError .ofFlaw
      let (a, others) ← splitTag tagName choices cut chosen rest
      return (a, (.named name, v) :: others)

/-- A value whose form is chosen by a tag among its members.  What the tag does not cover is set
aside and then read in the chosen form. -/
def tagged (name tagName : String) (choices : List (String × Reader α)) : Reader α
  | .object o ms cut => do
    let (form, rest) ← (splitTag tagName choices cut none ms).mapError (Refusal.settle o.stop?)
    form (.object .setAside rest none)
  | .array o [] cut => .error (match cut with
    | some b => .ofFlaw b.reading
    | none => ⟨.missingField tagName, o.stop?⟩)
  | .array o (d :: ds) cut => do
    let (form, rest) ← (do
      let form ← tag choices d
      let rest ← (Document.setItemsAside cut ds).mapError .ofFlaw
      return (form, rest) : Except Refusal _).mapError fun r => Refusal.settle o.stop? r
    form (.array .setAside rest none)
  | d => .error (d.reject (.tagged name))

/-- The value of a text, with nothing behind it. -/
def ofText (r : Reader α) (s : String) : Except Refusal α := do
  let (d, trailing) := Document.ofText s
  let a ← r d
  match trailing with
  | some flaw => .error (.ofFlaw flaw)
  | none => return a

/-- The value of a JSON value held in memory. -/
def ofJson (r : Reader α) (j : Json) : Except Refusal α := r (.ofJson j)

end Reader
end AgentSpec
