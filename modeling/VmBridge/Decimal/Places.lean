import VmBridge.Decimal.Binary64
/-! Numbers of the 64-bit binary format written with a given count of decimal places, with
or without an exponent, and rounded to even. -/
namespace VmBridge.Decimal

def pointed (units places : Nat) (keepsPoint : Bool) : String :=
  let digits := Nat.toDigits 10 units
  let filled := List.replicate (places + 1 - digits.length) '0' ++ digits
  let cut := filled.length - places
  let point := if places = 0 ∧ !keepsPoint then "" else "."
  String.ofList (filled.take cut) ++ point ++ String.ofList (filled.drop cut)

namespace Finite

def units (f : Finite) (places : Int) : Nat :=
  if 0 ≤ places then roundEven (f.num * Nat.pow 10 places.toNat) f.den
  else roundEven f.num (f.den * Nat.pow 10 (-places).toNat)

def fixed (f : Finite) (places : Nat) (keepsPoint : Bool) : String :=
  pointed (f.units places) places keepsPoint

def scientificParts (f : Finite) (places : Nat) : Nat × Int :=
  if f.m = 0 then (0, 0)
  else
    let e := f.places - 1
    let c := f.units ((places : Int) - e)
    if c < Nat.pow 10 (places + 1) then (c, e) else (f.units ((places : Int) - (e + 1)), e + 1)

def exponentText (e : Int) : String :=
  let digits := toString e.natAbs
  (if e < 0 then "-" else "+") ++ (if digits.length < 2 then "0" ++ digits else digits)

def scientific (f : Finite) (places : Nat) (mark : String) (keepsPoint : Bool) : String :=
  let (c, e) := f.scientificParts places
  pointed c places keepsPoint ++ mark ++ exponentText e

def withoutZeros (text : String) : String :=
  if text.toList.contains '.' then
    let kept := text.toList.reverse.dropWhile (· = '0')
    String.ofList (if kept.head? = some '.' then kept.tail else kept).reverse
  else text

def general (f : Finite) (digits : Nat) (mark : String) (keepsZeros : Bool) : String :=
  let digits := max digits 1
  let (c, e) := f.scientificParts (digits - 1)
  let tidy (text : String) : String := if keepsZeros then text else withoutZeros text
  if e < -4 ∨ (digits : Int) ≤ e then
    tidy (pointed c (digits - 1) keepsZeros) ++ mark ++ exponentText e
  else tidy (f.fixed ((digits : Int) - 1 - e).toNat keepsZeros)

end Finite
end VmBridge.Decimal
