import VmBridge.Toml.Scan
/-! The four kinds of quoted text: on one line or over several, with escapes or without. -/
namespace VmBridge.Toml

def hexValue? (c : Char) : Option Nat :=
  if '0' ≤ c ∧ c ≤ '9' then some (c.toNat - 48)
  else if 'a' ≤ c ∧ c ≤ 'f' then some (c.toNat - 87)
  else if 'A' ≤ c ∧ c ≤ 'F' then some (c.toNat - 55)
  else none

def hexNumber? (digits : List Char) : Option Nat :=
  digits.foldl (fun n c => do (← n) * 16 + (← hexValue? c)) (some 0)

def charOf? (n : Nat) : Option Char := if n.isValidChar then some (Char.ofNat n) else none

def numbered? (count : Nat) (cs : List Char) : Option (Char × List Char) :=
  if (cs.take count).length = count then
    (hexNumber? (cs.take count)).bind fun n => (charOf? n).map (·, cs.drop count)
  else none

def escape? : List Char → Option (Char × List Char)
  | 'b' :: rest => some ('\x08', rest)
  | 't' :: rest => some ('\t', rest)
  | 'n' :: rest => some ('\n', rest)
  | 'f' :: rest => some ('\x0c', rest)
  | 'r' :: rest => some ('\r', rest)
  | '"' :: rest => some ('"', rest)
  | '\\' :: rest => some ('\\', rest)
  | 'u' :: rest => numbered? 4 rest
  | 'U' :: rest => numbered? 8 rest
  | _ => none

theorem numberedLength {count : Nat} {cs rest : List Char} {c : Char}
    (h : numbered? count cs = some (c, rest)) : rest.length ≤ cs.length := by
  unfold numbered? at h
  split at h
  · simp only [Option.bind_eq_some_iff, Option.map_eq_some_iff, Prod.mk.injEq] at h
    obtain ⟨_, _, _, _, _, rfl⟩ := h
    simp
  · contradiction

theorem escapeLength {cs rest : List Char} {c : Char} (h : escape? cs = some (c, rest)) :
    rest.length ≤ cs.length := by
  unfold escape? at h
  split at h
  case h_8 | h_9 => exact Nat.le_succ_of_le (numberedLength h)
  case h_10 => contradiction
  all_goals
    simp only [Option.some.injEq, Prod.mk.injEq] at h
    obtain ⟨_, rfl⟩ := h
    exact Nat.le_succ _

def basic : Reader (List Char)
  | [] => none
  | '"' :: rest => some ([], rest)
  | '\\' :: rest =>
    match _h : escape? rest with
    | some (c, left) => (basic left).map fun (text, left) => (c :: text, left)
    | none => none
  | c :: rest => if isPlain c then (basic rest).map fun (text, left) => (c :: text, left) else none
termination_by cs => cs.length
decreasing_by
  · have := escapeLength _h
    simp only [List.length_cons]
    omega
  · simp

def literal : Reader (List Char)
  | [] => none
  | c :: rest =>
    if c = '\'' then some ([], rest)
    else if isPlain c then (literal rest).map fun (text, left) => (c :: text, left)
    else none

def closing? (quote : Char) (cs : List Char) : Option (List Char × List Char) :=
  let count := (cs.takeWhile (· = quote)).length
  if 3 ≤ count then
    let kept := min (count - 3) 2
    some (List.replicate kept quote, cs.drop (kept + 3))
  else none

def joined? (cs : List Char) : Option (List Char) := (newline? (skipWs cs)).map skipBreaks

theorem joinedLength {cs rest : List Char} (h : joined? cs = some rest) :
    rest.length ≤ cs.length := by
  obtain ⟨left, hl, rfl⟩ := Option.map_eq_some_iff.1 h
  have a := newlineLength hl
  have b := skipWsLength cs
  have c := skipBreaksLength left
  omega

def basicLines (cs : List Char) : Option (List Char × List Char) :=
  match closing? '"' cs with
  | some closed => some closed
  | none =>
    match cs with
    | [] => none
    | '\r' :: '\n' :: rest => (basicLines rest).map fun (text, left) => ('\n' :: text, left)
    | '\\' :: rest =>
      match _h : joined? rest with
      | some left => basicLines left
      | none =>
        match _h' : escape? rest with
        | some (c, left) => (basicLines left).map fun (text, left) => (c :: text, left)
        | none => none
    | c :: rest =>
      if isPlain c || c = '\n' then (basicLines rest).map fun (text, left) => (c :: text, left)
      else none
termination_by cs.length
decreasing_by
  · simp only [List.length_cons]; omega
  · have := joinedLength _h
    simp only [List.length_cons]
    omega
  · have := escapeLength _h'
    simp only [List.length_cons]
    omega
  · simp

def literalLines (cs : List Char) : Option (List Char × List Char) :=
  match closing? '\'' cs with
  | some closed => some closed
  | none =>
    match cs with
    | [] => none
    | '\r' :: '\n' :: rest => (literalLines rest).map fun (text, left) => ('\n' :: text, left)
    | c :: rest =>
      if isPlain c || c = '\n' then (literalLines rest).map fun (text, left) => (c :: text, left)
      else none
termination_by cs.length
decreasing_by
  · simp only [List.length_cons]; omega
  · simp

def withoutFirstBreak (cs : List Char) : List Char := (newline? cs).getD cs

def quotedWord : Reader String
  | '"' :: rest => (basic rest).map fun (text, left) => (String.ofList text, left)
  | '\'' :: rest => (literal rest).map fun (text, left) => (String.ofList text, left)
  | _ => none

def quotedText (cs : List Char) : Option (String × List Char) :=
  match cs with
  | '"' :: '"' :: '"' :: rest =>
    (basicLines (withoutFirstBreak rest)).map fun (text, left) => (String.ofList text, left)
  | '\'' :: '\'' :: '\'' :: rest =>
    (literalLines (withoutFirstBreak rest)).map fun (text, left) => (String.ofList text, left)
  | cs => quotedWord cs

end VmBridge.Toml
