import VmBridge.Text.Digit
import VmBridge.Text.Pattern.Basic
import VmBridge.Text.Pattern.Fault
/-! The smallest parts of a pattern: characters that stand for themselves, and escapes. -/
namespace VmBridge.Text.Pattern

structure Flags where
  ignoreCase : Bool := false
  lines : Bool := false
  acrossLines : Bool := false
  spaced : Bool := false
  deriving DecidableEq, Repr, Inhabited

structure Cursor where
  offset : Nat
  rest : List Char
  deriving DecidableEq, Repr, Inhabited

namespace Cursor

def of (s : String) : Cursor := ⟨0, s.toList⟩

def next (c : Cursor) : Cursor :=
  match c.rest with
  | [] => c
  | _ :: rest => ⟨c.offset + 1, rest⟩

def jump (c : Cursor) (n : Nat) : Cursor := ⟨c.offset + min n c.rest.length, c.rest.drop n⟩

def gapLength (inComment : Bool) : List Char → Nat
  | [] => 0
  | c :: rest =>
    if inComment then gapLength (c != '\n') rest + 1
    else if isBlank c then gapLength false rest + 1
    else if c = '#' then gapLength true rest + 1
    else 0

def skip (f : Flags) (c : Cursor) : Cursor :=
  if f.spaced then c.jump (gapLength false c.rest) else c

def nextSkip (f : Flags) (c : Cursor) : Cursor := c.next.skip f

def atEnd (c : Cursor) : Bool := c.rest.isEmpty
def char? (c : Cursor) : Option Char := c.rest.head?
def here (c : Cursor) : Span := ⟨c.offset, c.offset⟩
def character (c : Cursor) : Span := ⟨c.offset, c.offset + 1⟩
def upTo (start stop : Cursor) : Span := ⟨start.offset, stop.offset⟩

def startsWith (c : Cursor) (word : List Char) : Bool := word.isPrefixOf c.rest

end Cursor

abbrev Reading (α : Type) := Except Fault (α × Cursor)

def blame {α : Type} (flaw : Flaw) (span : Span) : Except Fault α := .error { flaw, span }

inductive Atom where
  | char (c : Char)
  | among (p : Char → Bool)
  | border (b : Border)

def foldings (c : Char) : List Char :=
  if c = 'k' ∨ c = 'K' ∨ c = '\u212A' then ['k', 'K', '\u212A']
  else if c = 's' ∨ c = 'S' ∨ c = '\u017F' then ['s', 'S', '\u017F']
  else [c.toLower, c.toUpper]

def folded (f : Flags) (p : Char → Bool) : Char → Bool :=
  if f.ignoreCase then fun c => p c || (foldings c).any p else p

def isMark (c : Char) : Bool :=
  c.toNat < 0x80 && !c.isAlphanum && c != '<' && c != '>'

def letterSet? (c : Char) : Option (Char → Bool) :=
  match c with
  | 'd' => some Char.isDigit
  | 's' => some isBlank
  | 'w' => some isWordChar
  | 'D' => some fun c => !c.isDigit
  | 'S' => some fun c => !isBlank c
  | 'W' => some fun c => !isWordChar c
  | _ => none

def controlOf? (c : Char) : Option Char :=
  match c with
  | 'a' => some '\x07'
  | 'f' => some '\x0c'
  | 't' => some '\t'
  | 'n' => some '\n'
  | 'r' => some '\r'
  | 'v' => some '\x0b'
  | _ => none

def borderOf? (c : Char) : Option Border :=
  match c with
  | 'A' => some .textStart
  | 'z' => some .textEnd
  | 'B' => some .noWord
  | '<' => some .wordStart
  | '>' => some .wordEnd
  | _ => none

def scalar? (n : Nat) : Option Char := if n.isValidChar then some (Char.ofNat n) else none

def hexValue (digits : List Char) : Nat := (takeDigits 16 digits.length 0 digits).1

def isHexDigit (c : Char) : Bool := (digit? 16 c).isSome

def hexDigits (f : Flags) (start : Cursor) : Nat → List Char → Cursor → Reading Char
  | 0, digits, c =>
    match scalar? (hexValue digits) with
    | some ch => .ok (ch, c)
    | none => blame .hexNoCharacter (start.upTo c)
  | count + 1, digits, c =>
    match c.char? with
    | none => blame .escapeCut c.here
    | some d =>
      if isHexDigit d then hexDigits f start count (digits ++ [d]) (c.nextSkip f)
      else blame .hexDigit c.character

def bracedHex (f : Flags) (brace : Cursor) : Nat → List Char → Cursor → Reading Char
  | 0, _, c => blame .escapeCut (brace.upTo c)
  | fuel + 1, digits, c =>
    match c.char? with
    | none => blame .escapeCut (brace.upTo c)
    | some '}' =>
      if digits = [] then blame .hexEmpty (brace.upTo (c.nextSkip f))
      else
        match scalar? (hexValue digits) with
        | some ch => .ok (ch, c.nextSkip f)
        | none => blame .hexNoCharacter (brace.next.upTo c)
    | some d =>
      if isHexDigit d then bracedHex f brace fuel (digits ++ [d]) (c.nextSkip f)
      else blame .hexDigit c.character

def numbered (f : Flags) (count : Nat) (c : Cursor) : Reading Char :=
  let c := c.nextSkip f
  match c.char? with
  | none => blame .escapeCut c.here
  | some '{' => bracedHex f c (c.rest.length + 1) [] (c.nextSkip f)
  | some _ => hexDigits f c count [] c

def properties : List (List String × (Char → Bool)) := [
  (["any"], fun _ => true),
  (["ascii"], fun c => c.toNat < 0x80),
  (["l", "letter", "alphabetic", "alpha"], fun c => isWordChar c && !c.isDigit && c != '_'),
  (["lu", "uppercaseletter", "uppercase", "upper"], Char.isUpper),
  (["ll", "lowercaseletter", "lowercase", "lower"], Char.isLower),
  (["n", "number", "nd", "decimalnumber", "digit"], Char.isDigit),
  (["p", "punctuation", "punct"],
    fun c => c.toNat < 0x7F && isMark c && 0x20 < c.toNat && !"$+=^\x60|~".toList.contains c),
  (["s", "symbol"], fun c => "$+<=>^\x60|~".toList.contains c),
  (["z", "separator", "zs", "spaceseparator"],
    fun c => isBlank c && c.toNat != 0x85 && !(0x09 ≤ c.toNat && c.toNat ≤ 0x0D)),
  (["whitespace", "space"], isBlank),
  (["cc", "control", "cntrl"], fun c => c.toNat < 0x20 || 0x7F ≤ c.toNat && c.toNat < 0xA0)]

def propertyNamed? (name : List Char) : Option (Char → Bool) :=
  let plain := (name.filter fun c => !isBlank c && c != '_' && c != '-').map Char.toLower
  (properties.find? fun entry => entry.1.any (·.toList = plain)).map Prod.snd

def propertyName? (f : Flags) : Nat → Cursor → Option (List Char × Cursor)
  | 0, _ => none
  | fuel + 1, c =>
    match c.char? with
    | none => none
    | some '}' => some ([], c.next)
    | some d => (propertyName? f fuel (c.nextSkip f)).map fun (name, stop) => (d :: name, stop)

def propertySet (span : Span) (negated : Bool) (name : List Char) (c : Cursor) : Reading Atom :=
  match propertyNamed? name with
  | some p => .ok (.among fun ch => p ch != negated, c)
  | none => blame .propertyUnknown span

def property (f : Flags) (start c : Cursor) (negated : Bool) : Reading Atom :=
  let c := c.nextSkip f
  match c.char? with
  | none => blame .escapeCut c.here
  | some '{' =>
    match propertyName? f (c.rest.length + 1) (c.nextSkip f) with
    | some ('^' :: name, stop) => propertySet (start.upTo stop) (!negated) name stop
    | some (name, stop) => propertySet (start.upTo stop) negated name stop
    | none => blame .escapeCut (c.jump c.rest.length).here
  | some '\\' => blame .propertyName c.character
  | some letter => propertySet (start.upTo (c.nextSkip f)) negated [letter] (c.nextSkip f)

def isBorderNameChar (c : Char) : Bool := c.isAlpha || c = '-'

def borderName (f : Flags) : Nat → Cursor → List Char × Cursor
  | 0, c => ([], c)
  | fuel + 1, c =>
    match c.char? with
    | some d =>
      if isBorderNameChar d then
        let (name, stop) := borderName f fuel (c.nextSkip f)
        (d :: name, stop)
      else ([], c)
    | none => ([], c)

def namedBorder? (name : String) : Option Border :=
  match name with
  | "start" => some .wordStart
  | "end" => some .wordEnd
  | "start-half" => some .wordStartHalf
  | "end-half" => some .wordEndHalf
  | _ => none

def wordBorder (f : Flags) (start c : Cursor) : Reading Atom :=
  if c.char? ≠ some '{' then .ok (.border .word, c)
  else
    let contents := c.nextSkip f
    match contents.char? with
    | none => blame .borderCut (start.upTo contents)
    | some d =>
      if !isBorderNameChar d then .ok (.border .word, c)
      else
        let (name, stop) := borderName f contents.rest.length contents
        if stop.char? ≠ some '}' then blame .borderOpen (c.upTo stop)
        else
          match namedBorder? (String.ofList name) with
          | some b => .ok (.border b, stop.next)
          | none => blame .borderUnknown (contents.upTo stop)

def lettered (f : Flags) (start c : Cursor) (letter : Char) : Reading Atom :=
  match controlOf? letter, borderOf? letter with
  | some d, _ => .ok (.char d, c.next)
  | none, some b => .ok (.border b, c.next)
  | none, none =>
    if letter = 'b' then wordBorder f start c.next
    else blame .escapeUnknown (start.upTo c.next)

def escaped (f : Flags) (start : Cursor) : Reading Atom :=
  let c := start.next
  match c.char? with
  | none => blame .escapeCut (start.upTo c)
  | some letter =>
    let character (r : Reading Char) : Reading Atom := r.map fun (ch, c) => (.char ch, c)
    match letterSet? letter with
    | some p => .ok (.among p, c.next)
    | none =>
      if letter.isDigit then blame .backReference (start.upTo c.next)
      else if letter = 'x' then character (numbered f 2 c)
      else if letter = 'u' then character (numbered f 4 c)
      else if letter = 'U' then character (numbered f 8 c)
      else if letter = 'p' ∨ letter = 'P' then property f start c (letter = 'P')
      else if isMark letter then .ok (.char letter, c.next)
      else lettered f start c letter

end VmBridge.Text.Pattern
