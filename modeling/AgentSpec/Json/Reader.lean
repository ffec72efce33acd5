import AgentSpec.Json.Refusal

/-!
Readers of single values, lists and named choices.
-/
namespace AgentSpec

abbrev Reader (α : Type) := Document → Except Refusal α

namespace Reader

def string : Reader String
  | .string _ s => .ok s
  | d => .error (d.reject .string)

def bool : Reader Bool
  | .bool _ b => .ok b
  | d => .error (d.reject .boolean)

/-- A natural number below a bound, by the name of its type. -/
def natural (bound : Nat) (type : String) : Reader Nat
  | .number o (.int n) =>
    if 0 ≤ n ∧ n < bound then .ok n.toNat
    else .error ⟨.invalidValue (.integer n) (.natural type), o.stop?⟩
  | d => .error (d.reject (.natural type))

/-- A natural number of 32 bits. -/
def nat32 : Reader UInt32 := fun d => (natural (twoTo 32) "u32" d).map UInt32.ofNat

/-- A natural number of 64 bits. -/
def size : Reader Nat := natural (twoTo 64) "usize"

/-- Any value, read completely. -/
def json : Reader Json := fun d => d.toJson.mapError Refusal.ofFlaw

/-- A value that may be null. -/
def option (r : Reader α) : Reader (Option α)
  | .null _ => .ok none
  | d => (r d).map some

def items (r : Reader α) (cut : Option Break) : List Document → Except Refusal (List α)
  | [] => match cut with
    | some b => .error (.ofFlaw b.reading)
    | none => .ok []
  | d :: rest => do
    let a ← r d
    return a :: (← items r cut rest)

def list (r : Reader α) : Reader (List α)
  | .array _ ds cut => items r cut ds
  | d => .error (d.reject .sequence)

def strings : Reader (List String) := list string

def entries (r : Reader α) (cut : Option Break) :
    List (Key × Document) → Except Refusal (List (String × α))
  | [] => match cut with
    | some b => .error (.ofFlaw b.reading)
    | none => .ok []
  | (k, d) :: rest => do
    let name ← k.name.mapError .ofFlaw
    let a ← r d
    return (name, a) :: (← entries r cut rest)

/-- Values by name; of equal names the last one counts. -/
def dictionary (r : Reader α) : Reader (Dictionary α)
  | .object _ ms cut => (entries r cut ms).map Dictionary.ofList
  | d => .error (d.reject .map)

/-- Nothing: a null, or also an empty object once the value was set aside. -/
def unit : Reader Unit
  | .null _ => .ok ()
  | .object .setAside [] none => .ok ()
  | d => .error (d.reject .unit)

/-- The choice of a name. -/
def choose (choices : List (String × α)) (name : String) (place : Option Place) :
    Except Refusal α :=
  match choices.lookup name with
  | some a => .ok a
  | none => .error ⟨.unknownVariant name (choices.map (·.1)), place⟩

/-- A named choice: its name, or an object whose only member has that name and no content.  In a
text nothing else is read, not even to tell what it is. -/
def choice (choices : List (String × α)) : Reader α
  | .string o s => choose choices s o.stop?
  | .object (.text _ stop) members cut => inText stop members cut
  | .object _ [(k, d)] _ => do
    let name ← k.name.mapError .ofFlaw
    let a ← choose choices name none
    unit d
    return a
  | .object _ _ _ => .error ⟨.invalidValue .map .singleKey, none⟩
  | d => .error (match d.unread? with
    | some p => ⟨.flaw .valueExpected, some ⟨p.line, p.column + 1⟩⟩
    | none => d.reject .variant)
where
  /-- The choice that an object in a text makes. -/
  inText (stop : Place) (members : List (Key × Document)) (cut : Option Break) :
      Except Refusal α :=
    match members, cut with
    | [], none => .error ⟨.flaw .valueExpected, some stop⟩
    | [], some b => .error ⟨.flaw .endInValue, some b.reading.place⟩
    | (k, d) :: rest, cut => do
      let name ← k.name.mapError fun flaw =>
        if flaw.kind = .keyExpected then d.reject .variantName else .ofFlaw flaw
      let a ← choose choices name k.stop
      unit d
      match rest, cut with
      | [], none => return a
      | [], some b =>
        if b.reading.kind = .endInObject then .error (.ofFlaw b.reading)
        else .error ⟨.flaw .valueExpected, k.behind⟩
      | _ :: _, _ => .error ⟨.flaw .valueExpected, k.behind⟩

/-- The choice among values that each have a text. -/
def choiceOf (toText : α → String) (all : List α) : Reader α :=
  choice (all.map fun a => (toText a, a))

/-- A choice told by its name, or by its place in the list once the value was set aside. -/
def tag (choices : List (String × α)) : Reader α
  | .string o s => choose choices s o.stop?
  | .number .setAside (.int n) =>
    if n < 0 then .error ⟨.invalidType (.integer n) .variantName, none⟩
    else match choices[n.toNat]? with
      | some c => .ok c.2
      | none => .error ⟨.invalidValue (.integer n) (.variantIndex choices.length), none⟩
  | d => .error (d.reject .variantName)

end Reader
end AgentSpec
