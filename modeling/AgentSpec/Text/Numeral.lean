import AgentSpec.Decimal.Digits

/-!
Natural numbers read from decimal texts.
-/
namespace AgentSpec.Text

/-- Why a text is no natural number below a bound. -/
inductive NumeralFault
  | empty
  | invalidDigit
  | tooLarge
deriving DecidableEq, Repr

def NumeralFault.message : NumeralFault → String
  | .empty => "cannot parse integer from empty string"
  | .invalidDigit => "invalid digit found in string"
  | .tooLarge => "number too large to fit in target type"

/-- The number whose first digits are `n` and that goes on with the given ones. -/
def readDigits (bound n : Nat) : List Char → Except NumeralFault Nat
  | [] => .ok n
  | c :: rest =>
    if !c.isDigit then .error .invalidDigit
    else
      let next := 10 * n + digitValue c
      if next < bound then readDigits bound next rest else .error .tooLarge

/-- A number below the bound, perhaps with a plus sign. -/
def readNatural (bound : Nat) (s : String) : Except NumeralFault Nat :=
  match s.toList with
  | [] => .error .empty
  | ['+'] => .error .invalidDigit
  | '+' :: digits => readDigits bound 0 digits
  | digits => readDigits bound 0 digits

end AgentSpec.Text
