import VmBridge.Tap.Name
/-! Requests to the TUN control device and the numbers they travel under. -/
namespace VmBridge.Tap
open Text (Bytes)

def writeCode (driver : Char) (index size : Nat) : Nat :=
  0x40000000 + size * 0x10000 + driver.toNat * 0x100 + index

def intSize : Nat := 4
def attachCode : Nat := writeCode 'T' 202 intSize
def persistCode : Nat := writeCode 'T' 203 intSize
def ownerCode : Nat := writeCode 'T' 204 intSize
def groupCode : Nat := writeCode 'T' 206 intSize

def tapFlags : Nat := 0x0002 + 0x1000

inductive Call where
  | attach (name : Bytes) (flags : Nat)
  | setInt (code : Nat) (argument : Int32)
  deriving DecidableEq, Repr

namespace Call

def code : Call → Nat
  | attach _ _ => attachCode
  | setInt code _ => code

def owner (id : UInt32) : Call := setInt ownerCode id.toInt32
def group (id : UInt32) : Call := setInt groupCode id.toInt32
def persist (on : Bool) : Call := setInt persistCode (if on then 1 else 0)
def attachTo (bytes : Bytes) : Call := attach (padded bytes) tapFlags

end Call

theorem codes :
    [attachCode, persistCode, ownerCode, groupCode] =
      [1074025674, 1074025675, 1074025676, 1074025678] := by decide

end VmBridge.Tap
