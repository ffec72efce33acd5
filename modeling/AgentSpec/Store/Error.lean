import AgentSpec.Json.Refusal

/-!
Why a call to the store fails.
-/
namespace AgentSpec

/-- A constraint of the tables that a write would break. -/
inductive Constraint
  | primaryKey (table : String)
  /-- An identifier has fewer characters than eight. -/
  | shortId
  | unique (table : String) (columns : List String)
  | foreignKey
  | notNull (table column : String)
  /-- A column holds none of the values that it may. -/
  | oneOf (column : String) (allowed : List String)
deriving DecidableEq, Repr

namespace Constraint

def code : Constraint → Nat
  | .primaryKey _ => 1555
  | .shortId => 275
  | .unique _ _ => 2067
  | .foreignKey => 787
  | .notNull _ _ => 1299
  | .oneOf _ _ => 275

def message : Constraint → String
  | .primaryKey table => s!"UNIQUE constraint failed: {table}.id"
  | .shortId => "CHECK constraint failed: length(id) >= 8"
  | .unique table columns =>
    "UNIQUE constraint failed: " ++ ", ".intercalate (columns.map fun c => table ++ "." ++ c)
  | .foreignKey => "FOREIGN KEY constraint failed"
  | .notNull table column => s!"NOT NULL constraint failed: {table}.{column}"
  | .oneOf column allowed =>
    s!"CHECK constraint failed: {column} IN (" ++
      ", ".intercalate (allowed.map fun v => s!"'{v}'") ++ ")"

end Constraint

inductive StoreError
  | io (text : String)
  | database (text : String)
  | invalidInput (text : String)
  | notFound (entity id : String)
  | constraint (c : Constraint)
  /-- A stored value is of another type than its column's. -/
  | mismatch (column wanted held : String)
  /-- A stored number has too many bits for its column. -/
  | tooWide (column : String)
  /-- A stored text is not the JSON that it should be. -/
  | json (refusal : Refusal)
  | badTimestamp (column : String)
  | outOfRange (column : String) (value : Int)
  | unknownTable (name : String)
  | unknownColumn (name : String)
deriving DecidableEq, Repr

namespace StoreError

/-- A code and the words of the database engine. -/
def returned (code : Nat) (text : String) : String :=
  s!"error returned from database: (code: {code}) " ++ text

/-- What the database engine tells of the error. -/
def engineText : StoreError → String
  | .constraint c => returned c.code c.message
  | .unknownTable name => returned 1 ("no such table: " ++ name)
  | .unknownColumn name => returned 1 ("no such column: " ++ name)
  | .mismatch column wanted held =>
    s!"error occurred while decoding column \"{column}\": mismatched types; " ++
      s!"Rust type `{wanted}` (as SQL type `INTEGER`) is not compatible with SQL type `{held}`"
  | .tooWide column =>
    s!"error occurred while decoding column \"{column}\": " ++
      "out of range integral type conversion attempted"
  | _ => ""

def message : StoreError → String
  | .io text => "IO error: " ++ text
  | .database text => "Database error: " ++ text
  | .invalidInput text => "Invalid input: " ++ text
  | .notFound entity id => s!"{entity} not found: {id}"
  | .json refusal => "JSON serialization error: " ++ refusal.message
  | .badTimestamp column => s!"Database error: Invalid {column} timestamp"
  | .outOfRange column value => s!"Database error: Out of range {column} value: {value}"
  | e => "Sqlx error: " ++ e.engineText

end StoreError
end AgentSpec
