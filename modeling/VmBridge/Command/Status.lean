/-! How a child process came to rest, as one status word: bits 0 to 6 hold the signal, bit 7
tells of a core dump, the byte above holds the exit code. -/
namespace VmBridge.Command

structure WaitStatus where
  raw : Int32
  deriving DecidableEq, Repr, Inhabited

namespace WaitStatus

def ofInt (n : Int) : WaitStatus := ⟨Int32.ofInt n⟩
def exited (code : Nat) : WaitStatus := ofInt (code % 256 * 256)
def killed (signal : Nat) : WaitStatus := ofInt signal

def bits (s : WaitStatus) : Nat := s.raw.toUInt32.toNat
def lowSeven (s : WaitStatus) : Nat := s.bits % 128
def highByte (s : WaitStatus) : Nat := s.bits / 256 % 256
def dumpedCore (s : WaitStatus) : Bool := s.bits / 128 % 2 = 1

/-- Only the whole word 0 is success: a word whose exit code is 0 may still tell of more. -/
def isSuccess (s : WaitStatus) : Bool := s.raw = 0

def code? (s : WaitStatus) : Option Nat :=
  if s.lowSeven = 0 then some s.highByte else none

def signal? (s : WaitStatus) : Option Nat :=
  if s.lowSeven = 0 ∨ s.lowSeven = 127 then none else some s.lowSeven

def stopSignal? (s : WaitStatus) : Option Nat :=
  if s.bits % 256 = 127 then some s.highByte else none

def isContinued (s : WaitStatus) : Bool := s.bits = 0xFFFF

def signalNames : List String := [
  "HUP", "INT", "QUIT", "ILL", "TRAP", "ABRT", "BUS", "FPE", "KILL", "USR1", "SEGV", "USR2",
  "PIPE", "ALRM", "TERM", "STKFLT", "CHLD", "CONT", "STOP", "TSTP", "TTIN", "TTOU", "URG",
  "XCPU", "XFSZ", "VTALRM", "PROF", "WINCH", "IO", "PWR", "SYS"]

def signalTitle (n : Nat) : String :=
  match n with
  | 0 => "0"
  | k + 1 =>
    match signalNames[k]? with
    | some name => s!"{n} (SIG{name})"
    | none => s!"{n}"

def hexWord (n : Nat) : String := "0x" ++ String.ofList (Nat.toDigits 16 n)

def text (s : WaitStatus) : String :=
  match s.code?, s.signal?, s.stopSignal? with
  | some code, _, _ => s!"exit status: {code}"
  | none, some n, _ =>
    s!"signal: {signalTitle n}" ++ (if s.dumpedCore then " (core dumped)" else "")
  | none, none, some n => s!"stopped (not terminated) by signal: {signalTitle n}"
  | none, none, none =>
    if s.isContinued then "continued (WIFCONTINUED)"
    else s!"unrecognised wait status: {s.raw.toInt} {hexWord s.bits}"

end WaitStatus
end VmBridge.Command
