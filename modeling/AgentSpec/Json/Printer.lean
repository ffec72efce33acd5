import AgentSpec.Json.Basic

/-!
JSON values as text, on one line or indented by two blanks.
-/
namespace AgentSpec.Json

/-- Four hexadecimal digits in lower case. -/
def hex4 (n : Nat) : String :=
  let ds := Nat.toDigits 16 n
  String.ofList (List.replicate (4 - ds.length) '0' ++ ds)

/-- A character inside quotes.  Only quotes, backslashes and control characters are escaped. -/
def escapeChar (c : Char) : String :=
  match c with
  | '"' => "\\\""
  | '\\' => "\\\\"
  | '\n' => "\\n"
  | '\r' => "\\r"
  | '\t' => "\\t"
  | c =>
    if c.toNat = 0x08 then "\\b"
    else if c.toNat = 0x0C then "\\f"
    else if c.toNat < 0x20 then "\\u" ++ hex4 c.toNat
    else c.toString

def quote (s : String) : String :=
  "\"" ++ String.join (s.toList.map escapeChar) ++ "\""

def numberText : JsonNumber → String
  | .int n => toString n
  | .float x => x.toText

/-- Opening and closing brace. -/
def braces (body : String) : String := "\x7b" ++ body ++ "\x7d"

mutual

/-- The text without white space between its tokens. -/
def compact : Json → String
  | .null => "null"
  | .bool b => if b then "true" else "false"
  | .number n => numberText n
  | .string s => quote s
  | .array items => "[" ++ ",".intercalate (compactItems items) ++ "]"
  | .object members => braces (",".intercalate (compactMembers members))

def compactItems : List Json → List String
  | [] => []
  | v :: rest => compact v :: compactItems rest

def compactMembers : List (String × Json) → List String
  | [] => []
  | (k, v) :: rest => (quote k ++ ":" ++ compact v) :: compactMembers rest

end

/-- A line break and the indentation of a depth. -/
def newline (depth : Nat) : String :=
  "\n" ++ String.ofList (List.replicate (2 * depth) ' ')

mutual

/-- The text with one item or member a line; empty ones stay on their line. -/
def indented (depth : Nat) : Json → String
  | .array [] => "[]"
  | .array items =>
    "[" ++ newline (depth + 1) ++ ("," ++ newline (depth + 1)).intercalate
      (indentedItems (depth + 1) items) ++ newline depth ++ "]"
  | .object [] => braces ""
  | .object members =>
    braces (newline (depth + 1) ++ ("," ++ newline (depth + 1)).intercalate
      (indentedMembers (depth + 1) members) ++ newline depth)
  | .null => "null"
  | .bool b => if b then "true" else "false"
  | .number n => numberText n
  | .string s => quote s

def indentedItems (depth : Nat) : List Json → List String
  | [] => []
  | v :: rest => indented depth v :: indentedItems depth rest

def indentedMembers (depth : Nat) : List (String × Json) → List String
  | [] => []
  | (k, v) :: rest => (quote k ++ ": " ++ indented depth v) :: indentedMembers depth rest

end

def pretty (j : Json) : String := indented 0 j

end AgentSpec.Json
