import VmBridge.Text.Quoted
/-! Status codes of Windows calls. The upper half of the range are failures; the lower half
are successes, of which zero is the plain one. -/
namespace VmBridge.Windows

abbrev Code := UInt32

namespace Code

def done : Code := 0

def fails (c : Code) : Bool := 0x80000000 ≤ c

theorem belowSucceeds {c : Code} : c.fails = false ↔ c < 0x80000000 := by
  rw [fails, decide_eq_false_iff_not, UInt32.not_le]

def noWriteLock : Code := 0x8004A024

def typeMismatch : Code := 0x80028CA0

def hexText (c : Code) : String := "0x" ++ Text.hexPadded 8 c.toNat

end Code

inductive Reply where
  | code (c : Code)
  | nothing
  deriving DecidableEq, Repr, Inhabited

def Reply.refusal? : Reply → Option Code
  | code c => if c.fails then some c else none
  | nothing => some .done

end VmBridge.Windows
