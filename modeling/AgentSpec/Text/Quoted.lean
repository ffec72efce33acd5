import AgentSpec.Text.HiddenTable
import AgentSpec.Text.Ranges

/-!
Texts quoted for a reader: whatever would not show as a character of its own is escaped.
-/
namespace AgentSpec.Text

/-- Shows as a character of its own. -/
def isPrintable (c : Char) : Bool := !inRanges hiddenRanges c.toNat

def quoteChar (c : Char) : String :=
  match c with
  | '"' => "\\\""
  | '\\' => "\\\\"
  | '\n' => "\\n"
  | '\r' => "\\r"
  | '\t' => "\\t"
  | c =>
    if c.toNat = 0 then "\\0"
    else if isPrintable c then c.toString
    else "\\u\x7b" ++ String.ofList (Nat.toDigits 16 c.toNat) ++ "\x7d"

def quoted (s : String) : String :=
  "\"" ++ String.join (s.toList.map quoteChar) ++ "\""

end AgentSpec.Text
