import VmBridge.Decimal.Places
import VmBridge.Programs.Echo
import VmBridge.Programs.Number
/-! Printing by a format. The format is used again as long as it takes arguments and some are
left; a directive without an argument takes the empty text. All texts are texts of bytes. -/
namespace VmBridge.Programs
open Text (Bytes)

def formatEscapes : Escapes := ⟨false, false, false⟩

inductive Extent where
  | absent
  | given (n : Nat)
  | argument
  deriving DecidableEq, Repr

structure Directive where
  flags : List Char := []
  width : Extent := .absent
  precision : Extent := .absent
  letter : Option Char := none
  text : String := ""
  deriving DecidableEq, Repr

inductive Piece where
  | bytes (b : Bytes)
  | directive (d : Directive)
  deriving DecidableEq, Repr

def extentFrom (cs : List Char) : Extent × List Char :=
  match cs with
  | '*' :: rest => (.argument, rest)
  | c :: _ =>
    if c.isDigit then
      let (n, rest) := Text.takeDigits 10 cs.length 0 cs
      (.given n, rest)
    else (.absent, cs)
  | [] => (.absent, [])

def directiveFrom (cs : List Char) : Directive × List Char :=
  let flags := cs.takeWhile (['#', '-', '+', ' ', '0'].contains ·)
  let (width, rest) := extentFrom (cs.drop flags.length)
  let (precision, rest) : Extent × List Char := match rest with
    | '.' :: rest =>
      match extentFrom rest with
      | (.absent, left) => (.given 0, left)
      | found => found
    | rest => (.absent, rest)
  let text := String.ofList ('%' :: cs.take (cs.length - rest.length + 1))
  (⟨flags, width, precision, rest.head?, text⟩, rest.tail)

def formatPieces : Nat → List Char → List Piece
  | 0, _ => []
  | _ + 1, [] => []
  | fuel + 1, '%' :: '%' :: rest => .bytes [0x25] :: formatPieces fuel rest
  | fuel + 1, '%' :: rest =>
    let (d, left) := directiveFrom rest
    .directive d :: formatPieces fuel left
  | fuel + 1, '\\' :: c :: rest =>
    match Text.digit? 8 c with
    | some v =>
      let number := Text.takeDigits 8 2 v rest
      .bytes [number.1.toUInt8] :: formatPieces fuel number.2
    | none => .bytes (formatEscapes.read ['\\', c]).1 :: formatPieces fuel rest
  | fuel + 1, c :: rest => .bytes [c.toNat.toUInt8] :: formatPieces fuel rest

structure Printed where
  bytes : Bytes := []
  complaints : List String := []
  stopped : Bool := false
  failed : Bool := false

def numberComplaints (arg : String) (read : Bool) (left : List Char) (outside : Bool) :
    List String :=
  if !left.isEmpty then
    [arg ++ (if read then ": not completely converted" else ": expected numeric value")]
  else if outside then [s!"{arg}: Numerical result out of range"]
  else []

def wholeOf (keepsSign : Bool) (arg : String) : Int × List String :=
  let quoted (c : Char) : Bool := c = '\'' || c = '"'
  if (arg.toList.head?.map quoted).getD false then
    (((Text.octetBytes arg)[1]?.getD 0).toNat, [])
  else
    let (negative, digits) := signFrom (arg.toList.dropWhile isSpace)
    let (n, left) := numberFrom digits
    let read := digits.length ≠ left.length
    let value := signed negative n
    let (bounded, outside) : Int × Bool :=
      if keepsSign then (clamped value, clamped value ≠ value)
      else if n < 0x10000000000000000 then (value % 0x10000000000000000, false)
      else (0xffffffffffffffff, true)
    (bounded, numberComplaints arg read (if read then left else arg.toList) outside)

def isExtreme (digits : Nat) : Decimal.Magnitude → Bool
  | .infinite => true
  | .notANumber => false
  | .finite f => digits ≠ 0 && f.m < Nat.pow 2 (Decimal.significantBits - 1)

def decimalOf (arg : String) : Decimal.Binary64 × List String :=
  let (negative, digits) := signFrom (arg.toList.dropWhile isSpace)
  let whole := digits.takeWhile Char.isDigit
  let rest := digits.drop whole.length
  let places := if rest.head? = some '.' then rest.tail.takeWhile Char.isDigit else []
  let read := !(whole.isEmpty && places.isEmpty)
  let rest := if rest.head? = some '.' ∧ read then rest.drop (places.length + 1) else rest
  let exponentAt (rest : List Char) : Int × List Char :=
    let (down, ds) := signFrom rest
    let (n, left) := Text.takeDigits 10 ds.length 0 ds
    (signed down n, left)
  let (exponent, left) : Int × List Char := match rest with
    | e :: after =>
      if read ∧ (e = 'e' ∨ e = 'E') then
        let (n, left) := exponentAt after
        let signs := match after with
          | c :: _ => if c = '+' ∨ c = '-' then 1 else 0
          | [] => 0
        if left.length + signs = after.length then (0, rest) else (n, left)
      else (0, rest)
    | [] => (0, [])
  let all := whole ++ places
  let value := (Text.takeDigits 10 all.length 0 all).1
  let magnitude :=
    Decimal.ofDigits value (toString value).length (exponent - (places.length : Int))
  (⟨negative && read, magnitude⟩,
    numberComplaints arg read (if read then left else arg.toList) (isExtreme value magnitude))

structure Layout where
  flags : List Char
  width : Nat
  precision : Option Nat

namespace Layout

def has (l : Layout) (flag : Char) : Bool := l.flags.contains flag

def filled (l : Layout) (zeros : Bool) (sign : String) (body : Bytes) : Bytes :=
  let head := Text.Utf8.encode sign
  let missing := l.width - (head.length + body.length)
  if l.has '-' then head ++ body ++ List.replicate missing 0x20
  else if zeros ∧ l.has '0' then head ++ List.replicate missing 0x30 ++ body
  else List.replicate missing 0x20 ++ head ++ body

def signOf (l : Layout) (negative : Bool) : String :=
  if negative then "-" else if l.has '+' then "+" else if l.has ' ' then " " else ""

def text (l : Layout) (bytes : Bytes) : Bytes :=
  l.filled false "" (match l.precision with
    | some most => bytes.take most
    | none => bytes)

def whole (l : Layout) (letter : Char) (n : Int) : Bytes :=
  let signed := letter = 'd' ∨ letter = 'i'
  let digits := match letter with
    | 'o' => Nat.toDigits 8 n.natAbs
    | 'x' => Nat.toDigits 16 n.natAbs
    | 'X' => (Nat.toDigits 16 n.natAbs).map Char.toUpper
    | _ => Nat.toDigits 10 n.natAbs
  let digits := if n = 0 ∧ l.precision = some 0 then [] else digits
  let digits := List.replicate (l.precision.getD 1 - digits.length) '0' ++ digits
  let digits := if letter = 'o' ∧ l.has '#' ∧ digits.head? ≠ some '0' then '0' :: digits
    else digits
  let sign := if signed then l.signOf (n < 0)
    else if l.has '#' ∧ n ≠ 0 ∧ letter = 'x' then "0x"
    else if l.has '#' ∧ n ≠ 0 ∧ letter = 'X' then "0X"
    else ""
  l.filled l.precision.isNone sign (Text.Utf8.encode (String.ofList digits))

def decimal (l : Layout) (letter : Char) (b : Decimal.Binary64) : Bytes :=
  let places := l.precision.getD 6
  let points := l.has '#'
  let sign := l.signOf b.negative
  match b.magnitude with
  | .infinite => l.filled false sign (Text.Utf8.encode "inf")
  | .notANumber => l.filled false sign (Text.Utf8.encode "nan")
  | .finite f =>
    let body := match letter with
      | 'e' => f.scientific places "e" points
      | 'E' => f.scientific places "E" points
      | 'g' => f.general places "e" points
      | 'G' => f.general places "E" points
      | _ => f.fixed places points
    l.filled true sign (Text.Utf8.encode body)

end Layout

def directed (l : Layout) (d : Directive) (arg : String) : Printed :=
  match d.letter with
  | none => { complaints := ["missing format character"], stopped := true, failed := true }
  | some letter =>
    if letter = 's' then { bytes := l.text (Text.octetBytes arg) }
    else if letter = 'c' then
      let first := match Text.octetBytes arg with
        | b :: _ => [b]
        | [] => [0]
      { bytes := l.filled false "" first }
    else if letter = 'b' then
      let (bytes, stopped) := shellEchoEscapes.read arg.toList
      { bytes := l.text bytes, stopped }
    else if letter = 'd' ∨ letter = 'i' then
      let (n, complaints) := wholeOf true arg
      { bytes := l.whole letter n, complaints }
    else if ['o', 'u', 'x', 'X'].contains letter then
      let (n, complaints) := wholeOf false arg
      { bytes := l.whole letter n, complaints }
    else if ['e', 'E', 'f', 'F', 'g', 'G'].contains letter then
      let (b, complaints) := decimalOf arg
      { bytes := l.decimal letter b, complaints }
    else { complaints := [s!"{d.text}: invalid directive"], stopped := true, failed := true }

def Extent.size (x : Extent) (args : List String) : Option Int × List String × List String :=
  match x with
  | .absent => (none, [], args)
  | .given n => (some n, [], args)
  | .argument =>
    let (n, complaints) := wholeOf true (args.headD "")
    (some n, complaints, args.tail)

def layoutOf (flags : List Char) (width precision : Option Int) : Layout :=
  match width with
  | some w => ⟨if w < 0 then '-' :: flags else flags, w.natAbs,
      (precision.filter (0 ≤ ·)).map Int.toNat⟩
  | none => ⟨flags, 0, (precision.filter (0 ≤ ·)).map Int.toNat⟩

def Printed.then (a b : Printed) : Printed :=
  ⟨a.bytes ++ b.bytes, a.complaints ++ b.complaints, b.stopped, b.failed⟩

def formatOnce : List Piece → List String → Printed × List String
  | [], args => ({}, args)
  | .bytes b :: rest, args =>
    let (later, left) := formatOnce rest args
    ({ later with bytes := b ++ later.bytes }, left)
  | .directive d :: rest, args =>
    let (width, before, args) := d.width.size args
    let (precision, between, args) := d.precision.size args
    let here := directed (layoutOf d.flags width precision) d (args.headD "")
    let here := { here with complaints := before ++ between ++ here.complaints }
    if here.stopped then (here, [])
    else
      let (later, left) := formatOnce rest args.tail
      (here.then later, left)

def formatted (pieces : List Piece) : Nat → List String → Printed
  | 0, _ => {}
  | fuel + 1, args =>
    let once := formatOnce pieces args
    if once.1.stopped ∨ once.2 = [] ∨ once.2.length = args.length then once.1
    else once.1.then (formatted pieces fuel once.2)

def printf (format : String) (args : List String) : Printed :=
  formatted (formatPieces format.length format.toList) (args.length + 1) args

end VmBridge.Programs
