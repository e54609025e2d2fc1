import Mathlib.Data.List.Forall2
import VmBridge.Text.Ascii
/-! Texts that read alike but for the case of the letters of the ASCII range. -/
namespace VmBridge.Text

inductive SameLetter : Char → Char → Prop where
  | same (c) : SameLetter c c
  | small {a b} (letter : 0x41 ≤ a.toNat ∧ a.toNat ≤ 0x5A) (small : b.toNat = a.toNat + 0x20) :
      SameLetter a b
  | capital {a b} (letter : 0x41 ≤ b.toNat ∧ b.toNat ≤ 0x5A) (small : a.toNat = b.toNat + 0x20) :
      SameLetter a b

theorem lowerPlace (c : Char) : c.toLower.toNat =
    if 0x41 ≤ c.toNat ∧ c.toNat ≤ 0x5A then c.toNat + 0x20 else c.toNat := by
  unfold Char.toLower
  split
  · rename_i letter
    have low : 0x41 ≤ c.val.toNat := letter.1
    have high : c.val.toNat ≤ 0x5A := letter.2
    have shift : ('a'.val - 'A'.val).toNat = 0x20 := by decide
    refine Eq.trans ?_ (if_pos ⟨low, high⟩).symm
    change (c.val + ('a'.val - 'A'.val)).toNat = c.val.toNat + 0x20
    rw [UInt32.toNat_add, shift]
    omega
  · rename_i other
    exact (if_neg other).symm

theorem sameLetter {a b : Char} : a.toLower = b.toLower ↔ SameLetter a b := by
  rw [← Char.toNat_inj, lowerPlace, lowerPlace]
  constructor
  · intro same
    split at same <;> split at same
    · obtain rfl := Char.toNat_inj.mp (by omega : a.toNat = b.toNat)
      exact .same a
    · rename_i letter _
      exact .small letter same.symm
    · rename_i _ letter
      exact .capital letter same
    · obtain rfl := Char.toNat_inj.mp same
      exact .same a
  · rintro (_ | ⟨letter, small⟩ | ⟨letter, small⟩)
    · rfl
    · rw [if_pos letter, if_neg (by omega), small]
    · rw [if_pos letter, if_neg (by omega), small]

theorem equalLetters {a b : String} :
    lowered a = lowered b ↔ List.Forall₂ SameLetter a.toList b.toList := by
  rw [lowered, lowered, ← List.forall₂_eq_eq_eq, List.forall₂_map_left_iff,
    List.forall₂_map_right_iff]
  simp only [sameLetter]

end VmBridge.Text
