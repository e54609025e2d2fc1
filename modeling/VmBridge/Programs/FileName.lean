import VmBridge.Text.Octet
/-! File names in complaints, written so that a shell reads them back: in quotes where a
character needs them, with escapes for bytes that cannot be shown. -/
namespace VmBridge.Programs.FileName
open Text (Bytes)

def meaningful : List Char :=
  ['!', '"', '$', '&', '(', ')', '*', ';', '<', '=', '>', '?', '[', '\\', '^', '\x60', '|']

def isShown (c : Char) : Bool := 32 ≤ c.toNat && c.toNat < 127

def needsQuotes (atStart alone : Bool) (c : Char) : Bool :=
  !isShown c || meaningful.contains c || c = '\'' || c = ' ' || c = ':' ||
    (atStart && (c = '#' || c = '~')) || (alone && (c = '\x7b' || c = '\x7d'))

def isNeutral (atStart alone : Bool) (c : Char) : Bool :=
  isShown c && !meaningful.contains c && (atStart || (c ≠ '#' && c ≠ '~')) &&
    (alone || (c ≠ '\x7b' && c ≠ '\x7d'))

def octal (n : Nat) : List Char :=
  [Char.ofNat (48 + n / 64), Char.ofNat (48 + n / 8 % 8), Char.ofNat (48 + n % 8)]

def escape (c : Char) : List Char :=
  match [(7, 'a'), (8, 'b'), (9, 't'), (10, 'n'), (11, 'v'), (12, 'f'), (13, 'r')].lookup c.toNat with
  | some letter => ['\\', letter]
  | none => '\\' :: octal c.toNat

def singleQuoted (escaping : Bool) : List Char → List Char
  | [] => []
  | c :: rest =>
    if c = '\'' then ['\'', '\\', '\'', '\''] ++ singleQuoted false rest
    else if isShown c then
      (if escaping then ['\'', '\''] else []) ++ c :: singleQuoted false rest
    else (if escaping then [] else ['\'', '$', '\'']) ++ escape c ++ singleQuoted true rest

def places (cs : List Char) : List (Bool × Char) :=
  match cs with
  | [] => []
  | c :: rest => (true, c) :: rest.map (false, ·)

def shownChars (cs : List Char) : List Char :=
  let alone := cs.length = 1
  if cs ≠ [] ∧ !((places cs).any fun (atStart, c) => needsQuotes atStart alone c) then cs
  else if cs.contains '\'' ∧ (places cs).all fun (atStart, c) => isNeutral atStart alone c then
    '"' :: cs ++ ['"']
  else '\'' :: singleQuoted false cs ++ ['\'']

def shown (name : String) : String :=
  String.ofList (shownChars (Text.octetText name).toList)

end VmBridge.Programs.FileName
