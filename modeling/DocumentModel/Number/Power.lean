/-!
# Powers of two and ten

The grid of binary numbers is spaced by powers of two and the digits of decimals by powers of ten.
-/

namespace DocumentModel

/-- The product of `n` twos. -/
def powerOfTwo (n : Nat) : Nat := Nat.pow 2 n

/-- The product of `n` tens. -/
def powerOfTen (n : Nat) : Nat := Nat.pow 10 n

theorem powerOfTwo_pos (n : Nat) : 0 < powerOfTwo n := Nat.pow_pos (by decide)

end DocumentModel
