import VmBridge.Files.Tree
/-! Copying files and input to the output, line numbers and visible controls included. -/
namespace VmBridge.Programs
open Text (Bytes)

structure CatStyle where
  numbers : Bool := false
  onlyFull : Bool := false
  marksEnds : Bool := false
  marksTabs : Bool := false
  showsControls : Bool := false
  squeezes : Bool := false
  deriving DecidableEq, Repr

namespace CatStyle

def letter? (s : CatStyle) (c : Char) : Option CatStyle :=
  match c with
  | 'n' => some { s with numbers := true }
  | 'b' => some { s with numbers := true, onlyFull := true }
  | 'E' => some { s with marksEnds := true }
  | 'T' => some { s with marksTabs := true }
  | 'v' => some { s with showsControls := true }
  | 'e' => some { s with marksEnds := true, showsControls := true }
  | 't' => some { s with marksTabs := true, showsControls := true }
  | 'A' => some { s with marksEnds := true, marksTabs := true, showsControls := true }
  | 's' => some { s with squeezes := true }
  | 'u' => some s
  | _ => none

def letters (s : CatStyle) : List Char → Except Char CatStyle
  | [] => .ok s
  | c :: rest =>
    match s.letter? c with
    | some s => s.letters rest
    | none => .error c

def longName? (s : CatStyle) (name : String) : Option CatStyle :=
  match name with
  | "number" => s.letter? 'n'
  | "number-nonblank" => s.letter? 'b'
  | "show-ends" => s.letter? 'E'
  | "show-tabs" => s.letter? 'T'
  | "show-nonprinting" => s.letter? 'v'
  | "show-all" => s.letter? 'A'
  | "squeeze-blank" => s.letter? 's'
  | _ => none

def shown (s : CatStyle) (b : UInt8) : Bytes :=
  let low (n : Nat) : Bytes :=
    if n < 32 then [0x5E, (n + 64).toUInt8] else if n = 127 then [0x5E, 0x3F] else [n.toUInt8]
  if b = 9 then if s.marksTabs then [0x5E, 0x49] else [9]
  else if !s.showsControls then [b]
  else if b.toNat < 128 then low b.toNat
  else 0x4D :: 0x2D :: low (b.toNat - 128)

structure Place where
  line : Nat := 1
  empty : Nat := 0
  atStart : Bool := true
  deriving DecidableEq, Repr

def numberText (n : Nat) : Bytes :=
  let digits := toString n
  Text.Utf8.encode (String.ofList (List.replicate (6 - digits.length) ' ') ++ digits ++ "\t")

def copy (s : CatStyle) (p : Place) : Bytes → Bytes × Place
  | [] => ([], p)
  | b :: rest =>
    let full := b ≠ 0x0A
    let dropped := s.squeezes && p.atStart && !full && 1 ≤ p.empty
    let numbered := p.atStart && s.numbers && !dropped && (full || !s.onlyFull)
    let head := if numbered then numberText p.line else []
    let body := if dropped then []
      else if full then s.shown b
      else (if s.marksEnds then [0x24] else []) ++ [0x0A]
    let next : Place :=
      ⟨if numbered then p.line + 1 else p.line, if p.atStart && !full then p.empty + 1 else 0,
        !full⟩
    let (later, last) := s.copy next rest
    (head ++ body ++ later, last)

end CatStyle

def catWords (s : CatStyle) : List String → Except String (CatStyle × List String)
  | [] => .ok (s, [])
  | "--" :: rest => .ok (s, rest)
  | "-" :: rest => (catWords s rest).map fun (s, files) => (s, "-" :: files)
  | word :: rest =>
    match word.toList with
    | '-' :: '-' :: name =>
      match s.longName? (String.ofList name) with
      | some s => catWords s rest
      | none => .error s!"unrecognized option '{word}'"
    | '-' :: letters =>
      match s.letters letters with
      | .ok s => catWords s rest
      | .error c => .error s!"invalid option -- '{c}'"
    | _ => (catWords s rest).map fun (s, files) => (s, word :: files)

end VmBridge.Programs
