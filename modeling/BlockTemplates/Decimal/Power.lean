/-!
Powers of two and of ten: the bounds of numbers with a fixed count of bits or digits.
-/

namespace BlockTemplates.Decimal

def twoTo (n : Nat) : Nat := Nat.pow 2 n

def tenTo (n : Nat) : Nat := Nat.pow 10 n

theorem twoTo_pos (n : Nat) : 0 < twoTo n := Nat.pow_pos (by decide)

end BlockTemplates.Decimal
