import VmBridge.Programs.Shell.Glob
import VmBridge.Programs.Shell.State
import VmBridge.Programs.Shell.Sum
/-! What becomes of words when a command runs: values are put in, and what stands unquoted is
split into fields. -/
namespace VmBridge.Programs.Shell

inductive Bit where
  | char (c : Char) (guarded drawn : Bool)
  | begun
  | cut
  deriving DecidableEq, Repr

abbrev Capture := Script → State → List Char × State

def charBits (quoted drawn : Bool) (cs : List Char) : List Bit :=
  cs.map fun c => .char c quoted drawn

def valueBits (quoted : Bool) (cs : List Char) : List Bit :=
  if quoted then .begun :: charBits true false cs else charBits false true cs

def bitChars (bits : List Bit) : List Char :=
  bits.flatMap fun b => match b with
    | .char c _ _ => [c]
    | .cut => [' ']
    | .begun => []

def bitGlob (bits : List Bit) : Glob :=
  bits.flatMap fun b => match b with
    | .char c guarded _ => [(c, guarded)]
    | .cut => [(' ', true)]
    | .begun => []

def splitBits (separators : List Char) (current : Option (List Char)) (closing : Bool) :
    List Bit → List (List Char)
  | [] => (current.map List.reverse).toList
  | .begun :: rest => splitBits separators (some (current.getD [])) false rest
  | .cut :: rest => (current.map List.reverse).toList ++ splitBits separators none false rest
  | .char c _ drawn :: rest =>
    if drawn ∧ separators.contains c then
      let blank := c = ' ' ∨ c = '\t' ∨ c = '\n'
      match current with
      | some cs => cs.reverse :: splitBits separators none blank rest
      | none =>
        if blank then splitBits separators none closing rest
        else if closing then splitBits separators none false rest
        else [] :: splitBits separators none false rest
    else splitBits separators (some (c :: current.getD [])) false rest

namespace State

def missingText (emptyIsMissing : Bool) : String :=
  if emptyIsMissing then "parameter not set or null" else "parameter not set"

def argumentBits (s : State) (name : String) (quoted : Bool) : List Bit :=
  if name = "*" ∧ quoted then
    let joint := match s.entry? "IFS", s.separators with
      | none, _ => [' ']
      | some _, cs => cs.take 1
    .begun :: charBits true false (joint.intercalate (s.arguments.map String.toList))
  else ([Bit.cut].intercalate (s.arguments.map fun a => valueBits quoted a.toList))

def namedBits (s : State) (name : String) (quoted : Bool) : List Bit :=
  if name = "@" ∨ name = "*" then s.argumentBits name quoted
  else valueBits quoted ((s.value? name).getD "").toList

def demanded (s : State) (name : String) : Bool :=
  s.flags.demands && (s.value? name).isNone && name ≠ "@" && name ≠ "*"

def putAll (s : State) (given : Puts) : State :=
  given.reverse.foldl (fun s (name, n) => s.assign name (toString n)) s

def sumBits (s : State) (cs : List Char) (quoted : Bool) : List Bit × State :=
  match evaluate (fun name => heldNumber ((s.value? name).getD "")) cs with
  | .ok (n, given) => (valueBits quoted (toString n).toList, s.putAll given)
  | .error (.unfit reason) =>
    ([], s.fail s!"arithmetic expression: {reason}: \"{String.ofList cs}\"")
  | .error (.held text) => ([], s.fail s!"Illegal number: {text}")

mutual

def bits (capture : Capture) : Nat → Bool → Word → State → List Bit × State
  | 0, _, _, s => ([], s)
  | _ + 1, _, [], s => ([], s)
  | fuel + 1, drawn, part :: rest, s =>
    let (here, s) := partBits capture fuel drawn part s
    if s.halt.isSome then ([], s)
    else
      let (later, s) := bits capture fuel drawn rest s
      (here ++ later, s)

def partBits (capture : Capture) : Nat → Bool → Part → State → List Bit × State
  | 0, _, _, s => ([], s)
  | fuel + 1, drawn, part, s =>
    match part with
    | .text cs quoted =>
      ((if quoted then [.begun] else []) ++ charBits quoted (drawn && !quoted) cs, s)
    | .sum terms quoted =>
      let (bs, s) := bits capture fuel false terms s
      if s.halt.isSome then ([], s) else s.sumBits (bitChars bs) quoted
    | .output script quoted =>
      let (cs, s) := capture script s
      (valueBits quoted cs, s)
    | .value name use quoted => useBits capture fuel name use quoted s

def useBits (capture : Capture) : Nat → String → Use → Bool → State → List Bit × State
  | 0, _, _, _, s => ([], s)
  | fuel + 1, name, use, quoted, s =>
    let value? := s.value? name
    match use with
    | .unknown => ([], s.fail "Bad substitution")
    | .plain =>
      if s.demanded name then ([], s.fail s!"{name}: parameter not set")
      else (s.namedBits name quoted, s)
    | .size =>
      if s.demanded name then ([], s.fail s!"{name}: parameter not set")
      else (valueBits quoted (toString (value?.getD "").length).toList, s)
    | .trimmed atEnd longest pattern =>
      if s.demanded name then ([], s.fail s!"{name}: parameter not set")
      else
        let (p, s) := bits capture fuel false pattern s
        (valueBits quoted ((bitGlob p).trim atEnd longest (value?.getD "").toList), s)
    | .stead kind emptyIsMissing word =>
      let present := value?.isSome && !(emptyIsMissing && value? = some "")
      let instead (s : State) : List Bit × State :=
        let (bs, s) := bits capture fuel true word s
        (if quoted then .begun :: bs else bs, s)
      match kind, present with
      | .kept, true => instead s
      | .kept, false => (if quoted then [.begun] else [], s)
      | _, true => (s.namedBits name quoted, s)
      | .fallback, false => instead s
      | .assigned, false =>
        let (bs, s) := bits capture fuel false word s
        if s.halt.isSome then ([], s)
        else
          let cs := bitChars bs
          (valueBits quoted cs, s.assign name (String.ofList cs))
      | .refusal, false =>
        let (bs, s) := bits capture fuel false word s
        if s.halt.isSome then ([], s)
        else
          let text := String.ofList (bitChars bs)
          let reason := if text = "" then missingText emptyIsMissing else text
          ([], s.fail s!"{name}: {reason}")

end

def deepest : Nat := 1000000

def text (capture : Capture) (w : Word) (s : State) : String × State :=
  let (bs, s) := bits capture deepest false w s
  (String.ofList (bitChars bs), s)

def glob (capture : Capture) (w : Word) (s : State) : Glob × State :=
  let (bs, s) := bits capture deepest false w s
  (bitGlob bs, s)

def fields (capture : Capture) : List Word → State → List String × State
  | [], s => ([], s)
  | w :: rest, s =>
    let (bs, s) := bits capture deepest false w s
    if s.halt.isSome then ([], s)
    else
      let here := (splitBits s.separators none false bs).map String.ofList
      let (later, s) := fields capture rest s
      (here ++ later, s)

end State
end VmBridge.Programs.Shell
