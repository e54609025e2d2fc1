import VmBridge.Text.Digit
import VmBridge.Text.Octet
/-! Backslash escapes in texts that programs print. The characters of these texts are bytes.
The dialects share the letters of the common controls and differ in the rest. An escape that a
dialect does not know stands for itself. -/
namespace VmBridge.Programs
open Text (Bytes)

structure Escapes where
  zeroExtends : Bool
  hexadecimal : Bool
  stops : Bool
  deriving DecidableEq, Repr

def controls : List (Char × UInt8) := [
  ('a', 0x07), ('b', 0x08), ('t', 0x09), ('n', 0x0A), ('v', 0x0B), ('f', 0x0C), ('r', 0x0D),
  ('\\', 0x5C), ('e', 0x1B)]

namespace Escapes

def letter? (c : Char) : Option UInt8 := controls.lookup c

def octalAfter (d : Escapes) (c : Char) : Nat := if d.zeroExtends ∧ c = '0' then 3 else 2

def startsHex (d : Escapes) (c : Char) (rest : List Char) : Bool :=
  d.hexadecimal && c = 'x' && (rest.head?.bind (Text.digit? 16)).isSome

def preceded (bytes : Bytes) (later : Bytes × Bool) : Bytes × Bool :=
  (bytes ++ later.1, later.2)

def read (d : Escapes) : List Char → Bytes × Bool
  | [] => ([], false)
  | '\\' :: c :: rest =>
    if d.stops ∧ c = 'c' then ([], true)
    else
      match letter? c, Text.digit? 8 c with
      | some b, _ => preceded [b] (d.read rest)
      | none, some v =>
        let number := Text.takeDigits 8 (d.octalAfter c) v rest
        preceded [number.1.toUInt8] (d.read number.2)
      | none, none =>
        if d.startsHex c rest then
          let number := Text.takeDigits 16 2 0 rest
          preceded [number.1.toUInt8] (d.read number.2)
        else preceded [0x5C] (d.read (c :: rest))
  | c :: rest => preceded [c.toNat.toUInt8] (d.read rest)
termination_by cs => cs.length
decreasing_by
  · simp only [List.length_cons]; omega
  · have := Text.takeDigitsLength 8 (d.octalAfter c) v rest
    simp only [List.length_cons]; omega
  · have := Text.takeDigitsLength 16 2 0 rest
    simp only [List.length_cons]; omega
  · simp only [List.length_cons]; omega
  · simp only [List.length_cons]; omega

end Escapes
end VmBridge.Programs
