/-!
Decimal digits as characters.
-/
namespace AgentSpec

def digitValue (c : Char) : Nat := c.toNat - '0'.toNat

/-- The number that digits denote. -/
def digitsValue (cs : List Char) : Nat :=
  cs.foldl (fun n c => 10 * n + digitValue c) 0

/-- The digits at the front, and what follows them. -/
def spanDigits (cs : List Char) : List Char × List Char :=
  (cs.takeWhile Char.isDigit, cs.dropWhile Char.isDigit)

end AgentSpec
