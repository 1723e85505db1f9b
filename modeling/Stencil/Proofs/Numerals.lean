/-!
# Written numbers

Whole numbers are written in decimal, a negative one with a sign in front. Main statement: a number
is known by its written form, since its digits are read back as the number and no sign is a digit.
-/

namespace Stencil

/-- Digits are read back as the number that has them. -/
theorem toDigits_injective : Function.Injective (Nat.toDigits 10) := by
  intro m n same
  calc
    m = Nat.ofDigitChars 10 (Nat.toDigits 10 m) 0 := Nat.ofDigitChars_ten_toDigits.symm
    _ = Nat.ofDigitChars 10 (Nat.toDigits 10 n) 0 := by rw [same]
    _ = n := Nat.ofDigitChars_ten_toDigits

theorem notMem_toDigits {c : Char} (other : c.isDigit = false) (n : Nat) :
    c ∉ Nat.toDigits 10 n := by
  intro member
  have digit := Nat.isDigit_of_mem_toDigits (by decide) (by decide) member
  rw [other] at digit
  cases digit

theorem toList_toString (i : Int) :
    (toString i).toList =
      if 0 ≤ i then Nat.toDigits 10 i.toNat else '-' :: Nat.toDigits 10 (-i).toNat := by
  rw [Int.toString_eq_repr, Int.repr_eq_if]
  split
  · rw [Nat.toList_repr]
  · rw [String.toList_append, Nat.toList_repr]
    rfl

/-- A number has no other characters than its sign and its digits. -/
theorem notMem_toString {c : Char} (sign : c ≠ '-') (other : c.isDigit = false) (i : Int) :
    c ∉ (toString i).toList := by
  rw [toList_toString]
  split
  · exact notMem_toDigits other _
  · exact List.not_mem_cons_of_ne_of_not_mem sign (notMem_toDigits other _)

/-- Numbers that are written alike have the same sign and the same digits. -/
theorem toString_injective : Function.Injective (toString : Int → String) := by
  intro i j same
  have written := congrArg String.toList same
  rw [toList_toString, toList_toString] at written
  have unsigned (n : Nat) : '-' ∉ Nat.toDigits 10 n := notMem_toDigits (by decide) n
  split at written <;> split at written
  · have digits := toDigits_injective written
    omega
  · exact absurd (written ▸ List.mem_cons_self) (unsigned i.toNat)
  · exact absurd (written ▸ List.mem_cons_self) (unsigned j.toNat)
  · have digits := toDigits_injective (List.cons.inj written).2
    omega

end Stencil
