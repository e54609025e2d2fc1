import VmBridge.Text.Blank
/-! Patterns that a text may hold. A pattern is a relation between the gaps of a text: it leads
from a gap to those that it can reach, and a text holds it if some gap leads anywhere. -/
namespace VmBridge.Text

structure Gap where
  before : Option Char
  after : List Char
  left : Nat
  deriving DecidableEq, Repr

def gapsFrom (before : Option Char) : List Char → List Gap
  | [] => [⟨before, [], 0⟩]
  | c :: rest => ⟨before, c :: rest, rest.length + 1⟩ :: gapsFrom (some c) rest

def wideLetters : List (Nat × Nat) := [
  (0xAA, 0xAA), (0xB5, 0xB5), (0xBA, 0xBA), (0xC0, 0xD6), (0xD8, 0xF6), (0xF8, 0x2C1),
  (0x300, 0x374), (0x376, 0x377), (0x37A, 0x37D), (0x37F, 0x37F), (0x386, 0x386),
  (0x388, 0x3F5), (0x3F7, 0x481), (0x483, 0x52F), (0x531, 0x556), (0x561, 0x587),
  (0x5D0, 0x5EA), (0x620, 0x669), (0x66E, 0x6D3), (0x6F0, 0x6FC), (0x904, 0x963),
  (0x966, 0x96F), (0xE01, 0xE3A), (0xE40, 0xE4E), (0x10A0, 0x10FA), (0x1E00, 0x1FBC),
  (0x3041, 0x3096), (0x30A1, 0x30FA), (0x30FC, 0x30FF), (0x3400, 0x4DBF), (0x4E00, 0x9FFF),
  (0xAC00, 0xD7A3), (0xFF10, 0xFF19), (0xFF21, 0xFF3A), (0xFF41, 0xFF5A),
  (0x20000, 0x2FA1D)]

def isWordChar (c : Char) : Bool :=
  c.isAlphanum || c = '_' || wideLetters.any fun (low, high) => low ≤ c.toNat && c.toNat ≤ high

inductive Border where
  | textStart
  | textEnd
  | lineStart
  | lineEnd
  | word
  | noWord
  | wordStart
  | wordEnd
  | wordStartHalf
  | wordEndHalf
  deriving DecidableEq, Repr

def Gap.wordBefore (g : Gap) : Bool := g.before.any isWordChar
def Gap.wordAfter (g : Gap) : Bool := g.after.head?.any isWordChar

def Border.holdsAt (b : Border) (g : Gap) : Bool :=
  match b with
  | textStart => g.before.isNone
  | textEnd => g.after.isEmpty
  | lineStart => g.before.all (· = '\n')
  | lineEnd => g.after.head?.all (· = '\n')
  | word => g.wordBefore != g.wordAfter
  | noWord => g.wordBefore == g.wordAfter
  | wordStart => !g.wordBefore && g.wordAfter
  | wordEnd => g.wordBefore && !g.wordAfter
  | wordStartHalf => !g.wordBefore
  | wordEndHalf => !g.wordAfter

inductive Pattern where
  | nothing
  | one (among : Char → Bool)
  | border (b : Border)
  | inTurn (first second : Pattern)
  | either (first second : Pattern)
  | repeated (p : Pattern) (least : Nat) (most : Option Nat)

namespace Pattern

def step (among : Char → Bool) (g : Gap) : Option Gap :=
  match g.after with
  | c :: rest => if among c then some ⟨some c, rest, g.left - 1⟩ else none
  | [] => none

def merged (gs more : List Gap) : List Gap :=
  more.foldl (fun gs g => if gs.any (·.left = g.left) then gs else gs ++ [g]) gs

def roundsFor (gs : List Gap) : Nat := gs.foldl (fun n g => max n (g.left + 1)) 0

def rounds (next : List Gap → List Gap) : Nat → List Gap → List Gap
  | 0, gs => gs
  | n + 1, gs => rounds next n (next gs)

def upTo (next : List Gap → List Gap) : Nat → List Gap → List Gap → List Gap
  | 0, seen, _ => seen
  | n + 1, seen, fresh =>
    let found := (next fresh).filter fun g => !seen.any (·.left = g.left)
    if found.isEmpty then seen else upTo next n (merged seen found) found

def reach : Pattern → List Gap → List Gap
  | nothing, gs => gs
  | one among, gs => gs.filterMap (step among)
  | border b, gs => gs.filter (b.holdsAt ·)
  | inTurn first second, gs => second.reach (first.reach gs)
  | either first second, gs => merged (first.reach gs) (second.reach gs)
  | repeated p least most, gs =>
    let most := min (most.getD (roundsFor gs + least)) (roundsFor gs + least)
    let first := rounds p.reach (min least (roundsFor gs)) gs
    upTo p.reach (most - least) first first

def isHeldBy (p : Pattern) (text : String) : Bool := p.reach (gapsFrom none text.toList) != []

end Pattern
end VmBridge.Text
