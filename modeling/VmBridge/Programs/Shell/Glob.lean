/-! Patterns over characters: an asterisk for any run, a question mark for any one, and sets
in brackets. A character that is guarded stands for itself. -/
namespace VmBridge.Programs.Shell

abbrev Mark := Char × Bool

abbrev Glob := List Mark

inductive SetItem where
  | single (c : Char)
  | range (low high : Char)
  | named (name : String)
  deriving DecidableEq, Repr

structure CharGroup where
  negated : Bool
  items : List SetItem
  deriving DecidableEq, Repr

def classHolds (name : String) (c : Char) : Bool :=
  match name with
  | "alpha" => c.isAlpha
  | "digit" => c.isDigit
  | "alnum" => c.isAlphanum
  | "upper" => c.isUpper
  | "lower" => c.isLower
  | "space" => c = ' ' || (9 ≤ c.toNat && c.toNat ≤ 13)
  | "blank" => c = ' ' || c = '\t'
  | "punct" => 33 ≤ c.toNat && c.toNat ≤ 126 && !c.isAlphanum
  | "xdigit" => c.isDigit || ('a' ≤ c && c ≤ 'f') || ('A' ≤ c && c ≤ 'F')
  | "cntrl" => c.toNat < 32 || c.toNat = 127
  | "print" => 32 ≤ c.toNat && c.toNat ≤ 126
  | "graph" => 33 ≤ c.toNat && c.toNat ≤ 126
  | _ => false

def SetItem.holds (c : Char) : SetItem → Bool
  | single x => x = c
  | range low high => low ≤ c && c ≤ high
  | named name => classHolds name c

def CharGroup.holds (g : CharGroup) (c : Char) : Bool := (g.items.any (·.holds c)) != g.negated

def groupItems : Nat → Bool → Glob → Option (List SetItem × Glob)
  | 0, _, _ => none
  | fuel + 1, first, p =>
    match p with
    | [] => none
    | (']', false) :: rest =>
      if first then (groupItems fuel false rest).map fun (is, left) => (.single ']' :: is, left)
      else some ([], rest)
    | ('[', false) :: (':', _) :: rest =>
      let name := rest.takeWhile (·.1 ≠ ':')
      (groupItems fuel false (rest.drop (name.length + 2))).map fun (is, left) =>
        (.named (String.ofList (name.map Prod.fst)) :: is, left)
    | (low, _) :: ('-', false) :: (high, guarded) :: rest =>
      if high = ']' ∧ !guarded then
        (groupItems fuel false (('-', true) :: (high, guarded) :: rest)).map fun (is, left) =>
          (.single low :: is, left)
      else (groupItems fuel false rest).map fun (is, left) => (.range low high :: is, left)
    | (c, _) :: rest =>
      (groupItems fuel false rest).map fun (is, left) => (.single c :: is, left)

def group? (p : Glob) : Option (CharGroup × Glob) :=
  match p with
  | ('!', false) :: rest =>
    (groupItems (rest.length + 1) true rest).map fun (items, left) => (⟨true, items⟩, left)
  | ('^', false) :: rest =>
    (groupItems (rest.length + 1) true rest).map fun (items, left) => (⟨true, items⟩, left)
  | _ => (groupItems (p.length + 1) true p).map fun (items, left) => (⟨false, items⟩, left)

def Glob.fitsWithin : Nat → Glob → List Char → Bool
  | 0, p, cs => p.isEmpty && cs.isEmpty
  | fuel + 1, p, cs =>
    match p, cs with
    | [], cs => cs.isEmpty
    | ('*', false) :: rest, [] => fitsWithin fuel rest []
    | ('*', false) :: rest, c :: more =>
      fitsWithin fuel rest (c :: more) || fitsWithin fuel (('*', false) :: rest) more
    | ('?', false) :: rest, _ :: more => fitsWithin fuel rest more
    | ('[', false) :: rest, c :: more =>
      match group? rest with
      | some (g, left) => g.holds c && fitsWithin fuel left more
      | none => c = '[' && fitsWithin fuel rest more
    | (x, _) :: rest, c :: more => x = c && fitsWithin fuel rest more
    | _ :: _, [] => false

def Glob.fits (p : Glob) (cs : List Char) : Bool := p.fitsWithin (p.length + cs.length + 1) cs

def Glob.firstFit? (p : Glob) (cs : List Char) (lengths : List Nat) : Option Nat :=
  lengths.find? fun n => p.fits (cs.take n)

def Glob.trim (p : Glob) (atEnd longest : Bool) (cs : List Char) : List Char :=
  let rising := List.range (cs.length + 1)
  if atEnd then
    let kept := if longest then rising else rising.reverse
    match kept.find? fun n => p.fits (cs.drop n) with
    | some n => cs.take n
    | none => cs
  else
    match p.firstFit? cs (if longest then rising.reverse else rising) with
    | some n => cs.drop n
    | none => cs

end VmBridge.Programs.Shell
