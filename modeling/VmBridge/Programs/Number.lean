import VmBridge.Text.Digit
/-! Whole numbers of 64 bits as programs read them from text. -/
namespace VmBridge.Programs

def isSpace (c : Char) : Bool := c = ' ' || (9 ≤ c.toNat && c.toNat ≤ 13)

def clamped (n : Int) : Int := max (-0x8000000000000000) (min n 0x7fffffffffffffff)

def numberFrom (cs : List Char) : Nat × List Char :=
  match cs with
  | '0' :: x :: y :: rest =>
    if (x = 'x' ∨ x = 'X') ∧ (Text.digit? 16 y).isSome then
      Text.takeDigits 16 (rest.length + 1) 0 (y :: rest)
    else Text.takeDigits 8 cs.length 0 cs
  | '0' :: _ => Text.takeDigits 8 cs.length 0 cs
  | _ => Text.takeDigits 10 cs.length 0 cs

def signFrom (cs : List Char) : Bool × List Char :=
  match cs with
  | '-' :: rest => (true, rest)
  | '+' :: rest => (false, rest)
  | rest => (false, rest)

def signed (negative : Bool) (n : Nat) : Int := if negative then -n else n

def digitsOnly? (word : String) : Option Nat :=
  if word ≠ "" ∧ word.toList.all Char.isDigit then
    some (Text.takeDigits 10 word.length 0 word.toList).1 |>.filter (· < 0x80000000)
  else none

def wholeNumber? (s : String) : Option Int :=
  let (negative, digits) := signFrom (s.toList.dropWhile isSpace)
  let (n, left) := Text.takeDigits 10 digits.length 0 digits
  let value := signed negative n
  if left.length = digits.length ∨ !left.all isSpace ∨ clamped value ≠ value then none
  else some value

def leadingNumber? (cs : List Char) : Option (Int × List Char) :=
  let (negative, digits) := signFrom (cs.dropWhile isSpace)
  let (n, left) := numberFrom digits
  if left.length = digits.length then none else some (clamped (signed negative n), left)

def heldNumber (text : String) : Except String Int :=
  if text = "" then .ok 0
  else
    match leadingNumber? text.toList with
    | some (n, left) => if left.all isSpace then .ok n else .error text
    | none => .error text

end VmBridge.Programs
