/-! UTF-8 over lists of bytes. `scan` cuts any bytes into readings, one for each character
and one for each maximal broken piece; `decode?` wants no broken piece and `lossy` puts
U+FFFD for each. -/
namespace VmBridge.Text

abbrev Bytes := List UInt8

namespace Utf8

def encode (s : String) : Bytes := s.toList.flatMap String.utf8EncodeChar

/-- What a first byte announces: the bits it carries and, in order, the range that each
byte after it must lie in. The narrow second ranges leave out overlong forms, surrogates
and values past U+10FFFF. -/
def lead? (b : Nat) : Option (Nat × List (Nat × Nat)) :=
  let any := (0x80, 0xBF)
  if b < 0x80 then some (b, [])
  else if 0xC2 ≤ b ∧ b ≤ 0xDF then some (b - 0xC0, [any])
  else if b = 0xE0 then some (0, [(0xA0, 0xBF), any])
  else if b = 0xED then some (0xD, [(0x80, 0x9F), any])
  else if 0xE1 ≤ b ∧ b ≤ 0xEF then some (b - 0xE0, [any, any])
  else if b = 0xF0 then some (0, [(0x90, 0xBF), any, any])
  else if 0xF1 ≤ b ∧ b ≤ 0xF3 then some (b - 0xF0, [any, any, any])
  else if b = 0xF4 then some (4, [(0x80, 0x8F), any, any])
  else none

def follow (value : Nat) : List (Nat × Nat) → Bytes → Option Char × Bytes
  | [], rest => (some (Char.ofNat value), rest)
  | _ :: _, [] => (none, [])
  | (low, high) :: more, b :: rest =>
    if low ≤ b.toNat ∧ b.toNat ≤ high then follow (value * 64 + (b.toNat - 0x80)) more rest
    else (none, b :: rest)

theorem followLength (value : Nat) (ranges : List (Nat × Nat)) (bytes : Bytes) :
    (follow value ranges bytes).2.length ≤ bytes.length := by
  induction ranges generalizing value bytes with
  | nil => simp [follow]
  | cons r more ih =>
    obtain ⟨low, high⟩ := r
    cases bytes with
    | nil => simp [follow]
    | cons b rest =>
      simp only [follow]
      split
      · have := ih (value * 64 + (b.toNat - 0x80)) rest
        simp only [List.length_cons]
        omega
      · simp

def step (b : UInt8) (rest : Bytes) : Option Char × Bytes :=
  match lead? b.toNat with
  | some (value, ranges) => follow value ranges rest
  | none => (none, rest)

theorem stepLength (b : UInt8) (rest : Bytes) : (step b rest).2.length ≤ rest.length := by
  unfold step
  split
  · exact followLength _ _ _
  · simp

/-- One reading per character, `none` for a maximal broken piece. -/
def scan : Bytes → List (Option Char)
  | [] => []
  | b :: rest => (step b rest).1 :: scan (step b rest).2
termination_by bytes => bytes.length
decreasing_by
  have := stepLength b rest
  simp only [List.length_cons]
  omega

def decode? (bytes : Bytes) : Option String :=
  ((scan bytes).mapM id).map String.ofList

def lossyChars (bytes : Bytes) : List Char := (scan bytes).map (·.getD '\uFFFD')

def lossy (bytes : Bytes) : String := String.ofList (lossyChars bytes)

end Utf8
end VmBridge.Text
