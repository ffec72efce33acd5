/-!
Powers of the two bases of numbers.
-/
namespace AgentSpec

def twoTo (n : Nat) : Nat := Nat.pow 2 n

def tenTo (n : Nat) : Nat := Nat.pow 10 n

end AgentSpec
