/-! Text as it reaches a stream that is no terminal: control characters other than blanks are
left out, and so are the sequences that an escape character begins. -/
namespace VmBridge.Text

inductive Sequence where
  | none
  | escape
  | marked
  | parameters
  | deviceParameters
  | deviceString
  | command
  deriving DecidableEq, Repr, Inhabited

namespace Sequence

def isSpacing (n : Nat) : Bool := n = 0x09 || n = 0x0A || n = 0x0C || n = 0x0D

def shows (n : Nat) : Bool := isSpacing n || 0x20 ≤ n && n != 0x7F

def afterEscape (n : Nat) : Sequence :=
  if 0x20 ≤ n ∧ n ≤ 0x2F then marked
  else if n = 0x5B then parameters
  else if n = 0x5D then command
  else if n = 0x50 then deviceParameters
  else if n = 0x58 ∨ n = 0x5E ∨ n = 0x5F then deviceString
  else if 0x30 ≤ n ∧ n ≤ 0x7E then none
  else escape

def after (s : Sequence) (n : Nat) : Sequence :=
  if n = 0x18 ∨ n = 0x1A then none
  else if n = 0x1B then escape
  else
    match s with
    | none => none
    | escape => afterEscape n
    | marked => if 0x30 ≤ n ∧ n ≤ 0x7E then none else marked
    | parameters => if 0x40 ≤ n ∧ n ≤ 0x7E then none else parameters
    | deviceParameters => if 0x40 ≤ n ∧ n ≤ 0x7E then deviceString else deviceParameters
    | deviceString => deviceString
    | command => if n = 0x07 then none else command

def letsThrough (s : Sequence) (n : Nat) : Bool :=
  match s with
  | none => shows n
  | escape | marked | parameters => isSpacing n
  | _ => false

def stringEnd : UInt8 := 0x9C

def afterWide (s : Sequence) (c : Char) : Sequence :=
  if s = deviceString ∧ (String.utf8EncodeChar c).contains stringEnd then none else s

end Sequence

mutual

def hiddenFrom (s : Sequence) : List Char → List Char
  | [] => []
  | c :: rest =>
    if c.toNat < 0x80 then
      if s.letsThrough c.toNat then c :: shownFrom (s.after c.toNat) rest
      else hiddenFrom (s.after c.toNat) rest
    else if s = .none then c :: shownFrom .none rest
    else hiddenFrom (s.afterWide c) rest

def shownFrom (s : Sequence) : List Char → List Char
  | [] => []
  | c :: rest =>
    if c.toNat < 0x80 then
      if Sequence.shows c.toNat then c :: shownFrom s rest
      else hiddenFrom (s.after c.toNat) rest
    else c :: shownFrom .none rest

end

def withoutControls (s : String) : String := String.ofList (hiddenFrom .none s.toList)

end VmBridge.Text
