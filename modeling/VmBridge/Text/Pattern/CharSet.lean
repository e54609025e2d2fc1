import VmBridge.Text.Pattern.Atom
/-! Sets of characters in brackets: single characters, ranges, named sets, sets inside sets,
and the three operations between them. -/
namespace VmBridge.Text.Pattern

abbrev CharSet := Char → Bool

namespace CharSet

def empty : CharSet := fun _ => false
def adding (s : CharSet) (p : Char → Bool) : CharSet := fun c => s c || p c
def range (low high : Char) : CharSet := fun c => low ≤ c && c ≤ high

inductive Operation where
  | intersection
  | difference
  | symmetricDifference
  deriving DecidableEq, Repr

def Operation.apply (o : Operation) (s t : CharSet) : CharSet :=
  match o with
  | .intersection => fun c => s c && t c
  | .difference => fun c => s c && !t c
  | .symmetricDifference => fun c => s c != t c

def Operation.mark : Operation → List Char
  | .intersection => ['&', '&']
  | .difference => ['-', '-']
  | .symmetricDifference => ['~', '~']

def operationAt? (c : Cursor) : Option Operation :=
  [Operation.intersection, .difference, .symmetricDifference].find? fun o => c.startsWith o.mark

def punctuation (c : Char) : Bool := 0x20 < c.toNat && c.toNat < 0x7F && !c.isAlphanum

def named? (name : String) : Option CharSet :=
  match name with
  | "alnum" => some Char.isAlphanum
  | "alpha" => some Char.isAlpha
  | "ascii" => some fun c => c.toNat < 0x80
  | "blank" => some fun c => c = ' ' || c = '\t'
  | "cntrl" => some fun c => c.toNat < 0x20 || c.toNat = 0x7F
  | "digit" => some Char.isDigit
  | "graph" => some fun c => 0x20 < c.toNat && c.toNat < 0x7F
  | "lower" => some Char.isLower
  | "print" => some fun c => 0x20 ≤ c.toNat && c.toNat < 0x7F
  | "punct" => some punctuation
  | "space" => some fun c => c = ' ' || 0x09 ≤ c.toNat && c.toNat ≤ 0x0D
  | "upper" => some Char.isUpper
  | "word" => some fun c => c.isAlphanum || c = '_'
  | "xdigit" => some isHexDigit
  | _ => none

def namedAt? (c : Cursor) : Option (CharSet × Cursor) :=
  match c.rest with
  | '[' :: ':' :: rest =>
    let (negated, rest) := match rest with
      | '^' :: more => (true, more)
      | more => (false, more)
    let name := rest.takeWhile (· ≠ ':')
    if [':', ']'].isPrefixOf (rest.drop name.length) then
      let length := name.length + (if negated then 5 else 4)
      (named? (String.ofList name)).map fun s => (fun ch => s ch != negated, c.jump length)
    else none
  | _ => none

def atom (f : Flags) (c : Cursor) (d : Char) : Reading Atom :=
  if d = '\\' then escaped f c else .ok (.char d, c.next)

def ofAtom (span : Span) : Atom → Except Fault CharSet
  | .char d => .ok fun c => c = d
  | .among p => .ok p
  | .border _ => blame .setEscape span

def boundOf (span : Span) : Atom → Except Fault Char
  | .char d => .ok d
  | _ => blame .setRangeEnd span

def joins (f : Flags) (c : Cursor) : Bool :=
  let after := (c.nextSkip f).char?
  c.char? = some '-' && after != some ']' && after != some '-'

def item (f : Flags) (opened : Span) (start : Cursor) (d : Char) :
    Except Fault (CharSet × Cursor) := do
  let (low, stop) ← atom f start d
  let c := stop.skip f
  if c.atEnd then blame .setOpen opened
  else if !joins f c then do
    let s ← ofAtom (start.upTo stop) low
    .ok (s, c)
  else
    let second := c.nextSkip f
    match second.char? with
    | none => blame .setOpen opened
    | some d => do
      let (high, after) ← atom f second d
      let a ← boundOf (start.upTo stop) low
      let b ← boundOf (second.upTo after) high
      if a ≤ b then .ok (range a b, after) else blame .setRange (start.upTo after)

structure Opening where
  negated : Bool
  members : CharSet
  span : Span
  after : Cursor

def leadingDashes (f : Flags) (start : Cursor) : Nat → Cursor → Except Fault (Bool × Cursor)
  | 0, c => .ok (false, c)
  | fuel + 1, c =>
    if c.char? = some '-' then
      let after := c.nextSkip f
      if after.atEnd then blame .setOpen start.here
      else (leadingDashes f start fuel after).map fun (_, stop) => (true, stop)
    else .ok (false, c)

def opening (f : Flags) (start : Cursor) : Except Fault Opening := do
  let c := start.nextSkip f
  let negated := c.char? = some '^'
  let c' := if negated then c.nextSkip f else c
  if c.atEnd then blame .setOpen (start.upTo c)
  else if c'.atEnd then blame .setOpen (start.upTo c')
  else do
    let (dashes, c) ← leadingDashes f start c'.rest.length c'
    let members := if dashes then empty.adding (· = '-') else empty
    if !dashes && c.char? = some ']' then
      let after := c.nextSkip f
      if after.atEnd then blame .setOpen (start.upTo after)
      else .ok ⟨negated, members.adding (· = ']'), start.upTo after, after⟩
    else .ok ⟨negated, members, start.upTo c, c⟩

abbrev Pending := Option (CharSet × Operation)

def combine (pending : Pending) (s : CharSet) : CharSet :=
  match pending with
  | some (t, o) => o.apply t s
  | none => s

mutual

def members (f : Flags) (o : Opening) :
    Nat → Pending → CharSet → Cursor → Except Fault (CharSet × Cursor)
  | 0, _, _, _ => blame .setOpen o.span
  | fuel + 1, pending, s, c =>
    let c := c.skip f
    match c.char? with
    | none => blame .setOpen o.span
    | some '[' =>
      match namedAt? c with
      | some (named, after) => members f o fuel pending (s.adding named) after
      | none => do
        let (inner, after) ← bracketed f fuel c
        members f o fuel pending (s.adding inner) after
    | some ']' =>
      let all := combine pending (folded f s)
      .ok (fun ch => all ch != o.negated, c.next)
    | some d =>
      match operationAt? c with
      | some operation =>
        members f o fuel (some (combine pending (folded f s), operation)) empty (c.jump 2)
      | none => do
        let (found, after) ← item f o.span c d
        members f o fuel pending (s.adding found) after

def bracketed (f : Flags) : Nat → Cursor → Except Fault (CharSet × Cursor)
  | 0, c => blame .setOpen c.character
  | fuel + 1, c => do
    let o ← opening f c
    members f o fuel none o.members o.after

end

end CharSet
end VmBridge.Text.Pattern
