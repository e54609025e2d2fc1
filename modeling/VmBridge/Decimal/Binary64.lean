/-! Numbers of the 64-bit binary format, in exact arithmetic: the nearest one to a decimal,
and the fewest digits that read back as it. -/
namespace VmBridge.Decimal

structure Finite where
  m : Nat
  q : Int
  deriving DecidableEq, Repr, Inhabited

inductive Magnitude where
  | finite (f : Finite)
  | infinite
  | notANumber
  deriving DecidableEq, Repr, Inhabited

structure Binary64 where
  negative : Bool
  magnitude : Magnitude
  deriving DecidableEq, Repr, Inhabited

def significantBits : Nat := 53
def leastExponent : Int := -1074
def greatestExponent : Int := 971

def roundEven (num den : Nat) : Nat :=
  let k := num / den
  let twice := 2 * (num % den)
  if twice < den then k
  else if den < twice then k + 1
  else k + k % 2

def scaled (num den : Nat) (e : Int) : Nat × Nat :=
  if 0 ≤ e then (num, den * Nat.pow 2 e.toNat) else (num * Nat.pow 2 (-e).toNat, den)

def exponentOf (num den : Nat) : Int :=
  let guess : Int := (num.log2 : Int) - den.log2 - (significantBits - 1)
  let (n, d) := scaled num den guess
  max leastExponent (if n < d * Nat.pow 2 (significantBits - 1) then guess - 1 else guess)

def ofFraction (num den : Nat) : Magnitude :=
  let q := exponentOf num den
  let (n, d) := scaled num den q
  let m := roundEven n d
  let (m, q) := if m = Nat.pow 2 significantBits then (m / 2, q + 1) else (m, q)
  if greatestExponent < q then .infinite else .finite ⟨m, q⟩

def farPlaces : Int := 400

def ofDigits (digits length : Nat) (exponent : Int) : Magnitude :=
  if digits = 0 then .finite ⟨0, leastExponent⟩
  else if farPlaces < exponent + length then .infinite
  else if exponent + length < -farPlaces then .finite ⟨0, leastExponent⟩
  else if 0 ≤ exponent then ofFraction (digits * Nat.pow 10 exponent.toNat) 1
  else ofFraction digits (Nat.pow 10 (-exponent).toNat)

structure Interval where
  low : Nat
  high : Nat
  den : Nat
  closed : Bool

namespace Finite

/-- The neighbour below is half as far away where the exponent drops. -/
def interval (f : Finite) : Interval :=
  let narrow := f.m = Nat.pow 2 (significantBits - 1) ∧ leastExponent < f.q
  let (up, down) :=
    if f.q - 2 < 0 then (1, Nat.pow 2 (2 - f.q).toNat) else (Nat.pow 2 (f.q - 2).toNat, 1)
  ⟨(4 * f.m - (if narrow then 1 else 2)) * up, (4 * f.m + 2) * up, down, f.m % 2 = 0⟩

def num (f : Finite) : Nat := if 0 ≤ f.q then f.m * Nat.pow 2 f.q.toNat else f.m
def den (f : Finite) : Nat := if 0 ≤ f.q then 1 else Nat.pow 2 (-f.q).toNat

def places (f : Finite) : Int :=
  let guess : Int := ((f.m.log2 : Int) + f.q) * 30103 / 100000
  let atLeast (k : Int) : Bool :=
    if 0 ≤ k then Nat.pow 10 k.toNat * f.den ≤ f.num else f.den ≤ f.num * Nat.pow 10 (-k).toNat
  if atLeast (guess + 1) then guess + 2 else if atLeast guess then guess + 1 else guess

end Finite

namespace Interval

def holds (i : Interval) (c : Nat) (e : Int) : Bool :=
  let (p, r) :=
    if 0 ≤ e then (c * Nat.pow 10 e.toNat * i.den, 1) else (c * i.den, Nat.pow 10 (-e).toNat)
  if i.closed then i.low * r ≤ p && p ≤ i.high * r else i.low * r < p && p < i.high * r

end Interval

def onGrid? (f : Finite) (e : Int) : Option Nat :=
  let (n, d) :=
    if 0 ≤ e then (f.num, f.den * Nat.pow 10 e.toNat) else (f.num * Nat.pow 10 (-e).toNat, f.den)
  let below := n / d
  let i := f.interval
  match i.holds below e, i.holds (below + 1) e with
  | true, true => some (if 2 * (n % d) < d then below else below + 1)
  | true, false => some below
  | false, true => some (below + 1)
  | false, false => none

def shortestFrom (f : Finite) (top : Int) : Nat → Nat → Option (Nat × Int)
  | 0, _ => none
  | fuel + 1, n =>
    let e := top - n
    match onGrid? f e with
    | some c => if c = 0 then shortestFrom f top fuel (n + 1) else some (c, e)
    | none => shortestFrom f top fuel (n + 1)

def mostDigits : Nat := 17

def shortest (f : Finite) : Nat × Int :=
  if f.m = 0 then (0, 0) else (shortestFrom f f.places (mostDigits + 1) 0).getD (0, 0)

def positional (c : Nat) (e : Int) : String :=
  let digits := Nat.toDigits 10 c
  if 0 ≤ e then String.ofList (digits ++ List.replicate e.toNat '0') ++ ".0"
  else
    let after := (-e).toNat
    let filled := List.replicate (after + 1 - digits.length) '0' ++ digits
    let cut := filled.length - after
    String.ofList (filled.take cut) ++ "." ++ String.ofList (filled.drop cut)

def stripped : Nat → Nat → Int → Nat × Int
  | 0, c, e => (c, e)
  | fuel + 1, c, e => if c ≠ 0 ∧ c % 10 = 0 then stripped fuel (c / 10) (e + 1) else (c, e)

def Binary64.text (b : Binary64) : String :=
  match b.magnitude with
  | .notANumber => "NaN"
  | .infinite => if b.negative then "-inf" else "inf"
  | .finite f =>
    let (c, e) := shortest f
    let (c, e) := stripped mostDigits c e
    (if b.negative then "-" else "") ++ positional c e

end VmBridge.Decimal
