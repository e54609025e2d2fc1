/-! Digits of any base up to thirty-six, letters in either case. -/
namespace VmBridge.Text

def digit? (base : Nat) (c : Char) : Option Nat :=
  let n := c.toNat
  let value? :=
    if 48 ≤ n ∧ n ≤ 57 then some (n - 48)
    else if 97 ≤ n ∧ n ≤ 122 then some (n - 87)
    else if 65 ≤ n ∧ n ≤ 90 then some (n - 55)
    else none
  value?.filter (· < base)

def takeDigits (base : Nat) : Nat → Nat → List Char → Nat × List Char
  | most + 1, v, c :: rest =>
    match digit? base c with
    | some d => takeDigits base most (v * base + d) rest
    | none => (v, c :: rest)
  | _, v, rest => (v, rest)

theorem takeDigitsLength (base most v : Nat) (cs : List Char) :
    (takeDigits base most v cs).2.length ≤ cs.length := by
  induction most generalizing v cs with
  | zero => simp [takeDigits]
  | succ most ih =>
    cases cs with
    | nil => simp [takeDigits]
    | cons c rest =>
      simp only [takeDigits]
      split
      next d _ =>
        have := ih (v * base + d) rest
        simp only [List.length_cons]
        omega
      · exact Nat.le_refl _

end VmBridge.Text
