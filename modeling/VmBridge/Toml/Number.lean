import VmBridge.Toml.Value
import VmBridge.Toml.Quote
/-! Integers and floats. Digits may be parted by single underscores, which count for
nothing. -/
namespace VmBridge.Toml
open Decimal (Binary64)

def isDecimal (c : Char) : Bool := '0' ≤ c && c ≤ '9'
def isHex (c : Char) : Bool := (hexValue? c).isSome
def isOctal (c : Char) : Bool := '0' ≤ c && c ≤ '7'
def isBinary (c : Char) : Bool := c = '0' || c = '1'

def moreDigits (isDigit : Char → Bool) : List Char → List Char × List Char
  | '_' :: c :: rest =>
    if isDigit c then
      let (ds, left) := moreDigits isDigit rest
      (c :: ds, left)
    else ([], '_' :: c :: rest)
  | c :: rest =>
    if isDigit c then
      let (ds, left) := moreDigits isDigit rest
      (c :: ds, left)
    else ([], c :: rest)
  | [] => ([], [])

def digitRun (isDigit : Char → Bool) : Reader (List Char)
  | c :: rest =>
    if isDigit c then
      let (ds, left) := moreDigits isDigit rest
      some (c :: ds, left)
    else none
  | [] => none

def wholeDigits : Reader (List Char)
  | '0' :: rest => some (['0'], rest)
  | cs => digitRun isDecimal cs

def sign? : List Char → Bool × List Char
  | '-' :: rest => (true, rest)
  | '+' :: rest => (false, rest)
  | cs => (false, cs)

def numberOf (base : Nat) (digits : List Char) : Nat :=
  digits.foldl (fun n c => n * base + (hexValue? c).getD 0) 0

def mostInteger : Nat := 0x7fffffffffffffff

def integerValue? (negative : Bool) (magnitude : Nat) : Option Value :=
  if negative then
    if magnitude ≤ mostInteger + 1 then some (.integer (-(magnitude : Int))) else none
  else if magnitude ≤ mostInteger then some (.integer magnitude)
  else none

def basedInteger (base : Nat) (isDigit : Char → Bool) : Reader Value := fun cs => do
  let (ds, left) ← digitRun isDigit cs
  let v ← integerValue? false (numberOf base ds)
  some (v, left)

def fraction? : List Char → Option (List Char × List Char)
  | '.' :: rest => digitRun isDecimal rest
  | _ => none

def exponent? : List Char → Option (Int × List Char)
  | c :: rest =>
    if c = 'e' || c = 'E' then
      let (negative, rest) := sign? rest
      (digitRun isDecimal rest).map fun (ds, left) =>
        let n : Int := numberOf 10 ds
        (if negative then -n else n, left)
    else none
  | [] => none

def floatValue? (negative : Bool) (whole fraction : List Char) (exponent : Int) :
    Option Value :=
  let digits := whole ++ fraction
  let magnitude := Decimal.ofDigits (numberOf 10 digits) digits.length (exponent - fraction.length)
  if magnitude = .infinite ∧ !negative then none else some (.float ⟨negative, magnitude⟩)

def special? (negative : Bool) (cs : List Char) : Option (Value × List Char) :=
  match expect "inf".toList cs, expect "nan".toList cs with
  | some left, _ => some (.float ⟨negative, .infinite⟩, left)
  | none, some left => some (.float ⟨negative, .notANumber⟩, left)
  | none, none => none

def decimal : Reader Value := fun cs => do
  let (negative, rest) := sign? cs
  let (whole, left) ← wholeDigits rest
  match left with
  | '.' :: _ => do
    let (fraction, left) ← fraction? left
    match exponent? left with
    | some (e, left) => (floatValue? negative whole fraction e).map (·, left)
    | none => (floatValue? negative whole fraction 0).map (·, left)
  | _ =>
    match exponent? left with
    | some (e, left) => (floatValue? negative whole [] e).map (·, left)
    | none => (integerValue? negative (numberOf 10 whole)).map (·, left)

def number (cs : List Char) : Option (Value × List Char) :=
  match cs with
  | '0' :: 'x' :: rest => basedInteger 16 isHex rest
  | '0' :: 'o' :: rest => basedInteger 8 isOctal rest
  | '0' :: 'b' :: rest => basedInteger 2 isBinary rest
  | cs =>
    match special? (sign? cs).1 (sign? cs).2 with
    | some found => some found
    | none => decimal cs

end VmBridge.Toml
