import VmBridge.Text.Digit
/-! Numeric user and group ids as people write them: decimal, hexadecimal after `0x`, octal
after a leading zero, with an optional plus sign. The largest 32-bit id means "nobody" to
the kernel and has no spelling. -/
namespace VmBridge.Owner
open Text (digit?)

abbrev Id := UInt32

/-- The id that stands for "no owner". -/
def nobody : Nat := 0xffffffff

def digits? (base : Nat) : List Char → Option (List Nat)
  | [] => some []
  | c :: rest => do
    let d ← digit? base c
    let ds ← digits? base rest
    some (d :: ds)

def value (base : Nat) (digits : List Nat) : Nat := digits.foldl (fun v d => v * base + d) 0

def announcedBase : List Char → Nat × List Char
  | '0' :: 'x' :: rest => (16, rest)
  | '0' :: 'X' :: rest => (16, rest)
  | '0' :: c :: rest => (8, c :: rest)
  | cs => (10, cs)

def withoutPlus : List Char → List Char
  | '+' :: rest => rest
  | cs => cs

def naturalOf? (cs : List Char) : Option Nat :=
  let (base, rest) := announcedBase (withoutPlus cs)
  if rest = [] then none else (digits? base rest).map (value base)

def idOfChars? (cs : List Char) : Option Id :=
  ((naturalOf? cs).filter (· < nobody)).map UInt32.ofNat

def numericId? (s : String) : Option Id := idOfChars? s.toList

theorem digitsAppend (base : Nat) (a b : List Char) :
    digits? base (a ++ b) =
      (do let x ← digits? base a; let y ← digits? base b; some (x ++ y)) := by
  induction a with
  | nil => simp [digits?]
  | cons c a ih =>
    simp only [List.cons_append, digits?, ih]
    cases digit? base c <;> cases digits? base a <;> cases digits? base b <;> simp

theorem idOfCharsBelow {cs : List Char} {n : Id} (h : idOfChars? cs = some n) :
    n.toNat < nobody := by
  obtain ⟨v, hv, rfl⟩ := Option.map_eq_some_iff.1 h
  have small : v < nobody := by simpa using (Option.filter_eq_some_iff.1 hv).2
  have : v < 0x100000000 := Nat.lt_trans small (by decide)
  rw [UInt32.toNat_ofNat_of_lt' this]
  exact small

end VmBridge.Owner
