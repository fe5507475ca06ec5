/-!
Arithmetic on 64-bit words that stops at the ends of the range instead of wrapping around.
-/
namespace CatalogSearch.Saturating

def greatest : UInt64 := 18446744073709551615

def sub (a b : UInt64) : UInt64 := if a ≤ b then 0 else a - b

def mul (a b : UInt64) : UInt64 := if a.toNat * b.toNat < UInt64.size then a * b else greatest

theorem toNat_sub (a b : UInt64) : (sub a b).toNat = a.toNat - b.toNat := by
  unfold sub
  split
  · next h =>
    have := UInt64.le_iff_toNat_le.1 h
    simp only [UInt64.toNat_zero]
    omega
  · next h =>
    rw [UInt64.le_iff_toNat_le] at h
    exact UInt64.toNat_sub_of_le _ _ (UInt64.le_iff_toNat_le.2 (by omega))

theorem toNat_mul (a b : UInt64) : (mul a b).toNat = min (a.toNat * b.toNat) (UInt64.size - 1) := by
  unfold mul
  split
  · next h =>
    rw [UInt64.toNat_mul, Nat.mod_eq_of_lt h]
    omega
  · next h =>
    have : greatest.toNat = UInt64.size - 1 := rfl
    omega

end CatalogSearch.Saturating
