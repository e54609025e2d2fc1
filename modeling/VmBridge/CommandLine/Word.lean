import VmBridge.Text.Utf8
/-! How one argument reads before `--`: as the end of options, as a long option, as a cluster
of one-letter options, or as a plain word. A lone dash is a plain word. -/
namespace VmBridge.CommandLine
open Text (Bytes)

def dash : UInt8 := 0x2D
def equals : UInt8 := 0x3D

inductive Word where
  | escape
  | long (name : Bytes) (value : Option Bytes)
  | cluster (letters : Bytes)
  | plain (bytes : Bytes)
  deriving DecidableEq, Repr, Inhabited

def cutAtEquals : Bytes → Bytes × Option Bytes
  | [] => ([], none)
  | b :: rest =>
    if b = equals then ([], some rest)
    else (b :: (cutAtEquals rest).1, (cutAtEquals rest).2)

namespace Word

def read : Bytes → Word
  | [] => plain []
  | [b] => plain [b]
  | a :: b :: rest =>
    if a = dash then
      if b = dash then
        if rest = [] then escape else long (cutAtEquals rest).1 (cutAtEquals rest).2
      else cluster (b :: rest)
    else plain (a :: b :: rest)

theorem readOfHead {b : UInt8} {rest : Bytes} (h : b ≠ dash) :
    read (b :: rest) = plain (b :: rest) := by
  cases rest <;> simp [read, h]

theorem readEscape : read [dash, dash] = escape := rfl

end Word

def standsAsValue (bytes : Bytes) : Bool := bytes.head? != some dash || bytes = [dash]

end VmBridge.CommandLine
