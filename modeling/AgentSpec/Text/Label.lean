import AgentSpec.Text.Blank
import AgentSpec.Text.Casing

/-!
Texts for people, made from identifiers and long names.
-/
namespace AgentSpec.Text

/-- Characters between the words of an identifier. -/
def isSeparator (c : Char) : Bool :=
  c == '_' || c == '-' || isSpace c

/-- The words of an identifier: separators end a word, and a capital starts the next one. -/
def wordsFrom (current : List Char) : List Char → List (List Char)
  | [] => if current.isEmpty then [] else [current]
  | c :: rest =>
    if isSeparator c then
      if current.isEmpty then wordsFrom [] rest else current :: wordsFrom [] rest
    else if isUppercase c && !current.isEmpty then current :: wordsFrom [c] rest
    else wordsFrom (current ++ [c]) rest

/-- A word with its first character in upper case. -/
def capitalize : List Char → List Char
  | [] => []
  | c :: rest => upperOf c ++ rest

/-- The label of an identifier: `tipImageUrl` and `tip_image_url` both read "Tip Image Url". -/
def label (name : String) : String :=
  " ".intercalate ((wordsFrom [] name.toList).map fun w => String.ofList (capitalize w))

/-- The text cut to `limit` characters, the last three of them dots; a limit below three leaves only
the dots. -/
def shorten (limit : Nat) (s : String) : String :=
  if s.length ≤ limit then s else String.ofList (s.toList.take (limit - 3)) ++ "..."

end AgentSpec.Text
