import VmBridge.Programs.Shell.Cursor
/-! Reading scripts. Words hold scripts and scripts hold words, so all readers are one
recursion; its fuel is at least what the length of the text allows. -/
namespace VmBridge.Programs.Shell

inductive Ending where
  | blank
  | quote
  | brace (quoted : Bool)
  | sum (opened : Nat)
  | text
  deriving DecidableEq, Repr

namespace Ending

def quotes : Ending → Bool
  | blank => false
  | brace quoted => quoted
  | _ => true

def escapes (e : Ending) (c : Char) : Bool :=
  match e with
  | blank => true
  | brace false => true
  | brace true => ['$', '\x60', '"', '\\', '\x7d'].contains c
  | text => ['$', '\x60', '\\'].contains c
  | _ => ['$', '\x60', '"', '\\'].contains c

def missing : Ending → String
  | brace false => "Missing '\x7d'"
  | sum _ => "Missing '))'"
  | _ => "Unterminated quoted string"

end Ending

def addChar (c : Char) (quoted : Bool) : List Part → List Part
  | .text cs q :: more => if q = quoted then .text (c :: cs) q :: more
      else .text [c] quoted :: .text cs q :: more
  | done => .text [c] quoted :: done

def inOrder (done : List Part) : Word :=
  (done.map fun p => match p with
    | .text cs quoted => .text cs.reverse quoted
    | p => p).reverse

def onto (done : List Part) (w : Word) : List Part :=
  (w.map fun p => match p with
    | .text cs quoted => .text cs.reverse quoted
    | p => p).reverse ++ done

def isSpecial (c : Char) : Bool := c.isDigit || ['$', '?', '#', '@', '*', '!', '-'].contains c

def backQuoted (quoted : Bool) : List Char → Option (List Char × List Char)
  | [] => none
  | '\x60' :: rest => some ([], rest)
  | '\\' :: c :: rest =>
    (backQuoted quoted rest).map fun (cs, left) =>
      if ['$', '\x60', '\\'].contains c ∨ quoted ∧ c = '"' then (c :: cs, left)
      else ('\\' :: c :: cs, left)
  | c :: rest => (backQuoted quoted rest).map fun (cs, left) => (c :: cs, left)

def stead? : Char → Option Stead
  | '-' => some .fallback
  | '=' => some .assigned
  | '?' => some .refusal
  | '+' => some .kept
  | _ => none

structure LineStyle where
  delimiter : List Char
  strips : Bool
  joins : Bool

def endsOpen (line : List Char) : Bool := (line.reverse.takeWhile (· = '\\')).length % 2 = 1

def linesUntil (style : LineStyle) : Nat → Bool → List Char → List Char × Nat × List Char
  | 0, _, cs => ([], 0, cs)
  | _ + 1, _, [] => ([], 0, [])
  | fuel + 1, joined, cs =>
    let whole := cs.takeWhile (· ≠ '\n')
    let line := if style.strips then whole.dropWhile (· = '\t') else whole
    let after := cs.drop whole.length
    let ends := (after.take 1).length
    if line = style.delimiter ∧ !joined then ([], ends, after.tail)
    else
      let (text, count, left) :=
        linesUntil style fuel (style.joins && endsOpen whole) after.tail
      (line ++ after.take 1 ++ text, count + ends, left)

namespace Cursor

def cutText (c : Cursor) (style : LineStyle) : List Char × Cursor :=
  let before := c.rest.takeWhile (· ≠ '\n')
  match c.rest.drop before.length with
  | [] => ([], c)
  | newline :: body =>
    let (text, count, left) := linesUntil style (body.length + 1) false body
    (text, { c with rest := before ++ newline :: left, owed := c.owed + count })

def redirectSign (c : Cursor) : Nat × List Char × Cursor :=
  let c := c.skipBlanks
  let (descriptor?, c) := match c.rest with
    | d :: _ => if d.isDigit then (some (d.toNat - 48), c.step) else (none, c)
    | [] => (none, c)
  let signs := ["<<-", "<<", "<&", "<>", "<", ">>", ">&", ">|", ">"].map String.toList
  let sign := (signs.find? (·.isPrefixOf c.rest)).getD []
  (descriptor?.getD (if sign.head? = some '<' then 0 else 1), sign, c.drop sign.length)

end Cursor

def directionOf (sign : List Char) : Direction :=
  match sign with
  | ['<'] => .read
  | ['>', '|'] => .overwrite
  | ['<', '>'] => .both
  | ['>', '>'] => .append
  | ['<', '&'] => .copy
  | ['>', '&'] => .copy
  | _ => .write

def isQuoted : Part → Bool
  | .text _ quoted => quoted
  | _ => false

def unquotedText (w : Word) : List Char :=
  w.flatMap fun p => match p with
    | .text cs _ => cs
    | _ => []

def allArguments : List Word := [[.value "@" .plain true]]

mutual

def readParts : Nat → Ending → List Part → Cursor → Except Complaint (Word × Cursor)
  | 0, _, _, c => c.refuse "too long"
  | fuel + 1, e, done, c =>
    match e, c.rest with
    | .blank, [] => .ok (inOrder done, c)
    | .text, [] => .ok (inOrder done, c)
    | _, [] => c.refuse e.missing
    | .quote, '"' :: _ => .ok (inOrder done, c.step)
    | .brace _, '\x7d' :: _ => .ok (inOrder done, c.step)
    | .sum 0, ')' :: ')' :: _ => .ok (inOrder done, c.drop 2)
    | .sum (n + 1), ')' :: _ => readParts fuel (.sum n) (addChar ')' true done) c.step
    | .sum n, '(' :: _ => readParts fuel (.sum (n + 1)) (addChar '(' true done) c.step
    | _, '\\' :: '\n' :: _ => readParts fuel e done (c.drop 2)
    | _, '\\' :: x :: _ =>
      if e.escapes x then readParts fuel e (addChar x true done) (c.drop 2)
      else readParts fuel e (addChar x true (addChar '\\' true done)) (c.drop 2)
    | _, '$' :: _ => do
      let (p, c) ← readValue fuel e.quotes c.step
      match p with
      | .text _ _ => readParts fuel e (addChar '$' e.quotes done) c
      | p => readParts fuel e (p :: done) c
    | _, '\x60' :: _ => do
      let (p, c) ← readBackQuoted fuel e.quotes c.step
      readParts fuel e (p :: done) c
    | _, x :: rest =>
      if x = '\'' ∧ !e.quotes then
        let inside := rest.takeWhile (· ≠ '\'')
        if inside.length = rest.length then
          (c.drop (inside.length + 1)).refuse Ending.quote.missing
        else readParts fuel e (onto done [.text inside true]) (c.drop (inside.length + 2))
      else if x = '"' ∧ (e = .blank ∨ e = .brace false ∨ e = .brace true) then do
        let (w, c) ← readParts fuel .quote [] c.step
        readParts fuel e (onto done (if w.isEmpty then [.text [] true] else w)) c
      else if e = .blank ∧ endsWord x then .ok (inOrder done, c)
      else readParts fuel e (addChar x e.quotes done) c.step

def readValue : Nat → Bool → Cursor → Except Complaint (Part × Cursor)
  | 0, _, c => c.refuse "too long"
  | fuel + 1, quoted, c =>
    match c.rest with
    | '(' :: '(' :: _ => do
      let (w, c) ← readParts fuel (.sum 0) [] (c.drop 2)
      .ok (.sum w quoted, c)
    | '(' :: _ => do
      let (script, c) ← readList fuel true c.step
      let c ← demand fuel true ")" c
      .ok (.output script quoted, c)
    | '\x7b' :: _ => readBraced fuel quoted c.step
    | x :: _ =>
      if isNameStart x then
        let name := c.rest.takeWhile isNameChar
        .ok (.value (String.ofList name) .plain quoted, c.drop name.length)
      else if isSpecial x then .ok (.value x.toString .plain quoted, c.step)
      else .ok (.text ['$'] quoted, c)
    | [] => .ok (.text ['$'] quoted, c)

def readBraced : Nat → Bool → Cursor → Except Complaint (Part × Cursor)
  | 0, _, c => c.refuse "too long"
  | fuel + 1, quoted, c =>
    let unknown (c : Cursor) : Except Complaint (Part × Cursor) := do
      let (_, c) ← readParts fuel (.brace quoted) [] c
      .ok (.value "" .unknown quoted, c)
    let nameAt (cs : List Char) : List Char :=
      match cs with
      | x :: _ =>
        if isNameStart x then cs.takeWhile isNameChar
        else if x.isDigit then cs.takeWhile Char.isDigit
        else if isSpecial x then [x]
        else []
      | [] => []
    match c.rest with
    | '#' :: x :: y :: _ =>
      if isNameChar x then
        let name := nameAt c.rest.tail
        let after := c.drop (name.length + 1)
        if after.rest.head? = some '\x7d' then
          .ok (.value (String.ofList name) .size quoted, after.step)
        else unknown after
      else if x ≠ '\x7d' ∧ y = '\x7d' then
        if isSpecial x then .ok (.value x.toString .size quoted, c.drop 3) else unknown c.step
      else readUse fuel quoted "#" c.step
    | rest =>
      let name := nameAt rest
      if name = [] then unknown c
      else readUse fuel quoted (String.ofList name) (c.drop name.length)

def readUse : Nat → Bool → String → Cursor → Except Complaint (Part × Cursor)
  | 0, _, _, c => c.refuse "too long"
  | fuel + 1, quoted, name, c =>
    let emptyIsMissing := c.rest.head? = some ':'
    let after := if emptyIsMissing then c.step else c
    match after.rest with
    | '\x7d' :: _ =>
      if emptyIsMissing then do
        let (_, c) ← readParts fuel (.brace quoted) [] after.step
        .ok (.value name .plain quoted, c)
      else .ok (.value name .plain quoted, c.step)
    | x :: more =>
      match stead? x with
      | some kind => do
        let (w, c) ← readParts fuel (.brace quoted) [] after.step
        .ok (.value name (.stead kind emptyIsMissing w) quoted, c)
      | none =>
        if (x = '%' ∨ x = '#') ∧ !emptyIsMissing then do
          let longest := more.head? = some x
          let (w, c) ← readParts fuel (.brace false) [] (c.drop (if longest then 2 else 1))
          .ok (.value name (.trimmed (x = '%') longest w) quoted, c)
        else do
          let (_, c) ← readParts fuel (.brace quoted) [] after
          .ok (.value name .unknown quoted, c)
    | [] => after.refuse (Ending.brace quoted).missing

def readBackQuoted : Nat → Bool → Cursor → Except Complaint (Part × Cursor)
  | 0, _, c => c.refuse "too long"
  | fuel + 1, quoted, c =>
    match backQuoted quoted c.rest with
    | none => (c.drop c.rest.length).refuse "EOF in backquote substitution"
    | some (text, left) => do
      let (script, after) ← readList fuel true ⟨text, 1, 0⟩
      match after.next with
      | .ended => .ok (.output script quoted, c.drop (c.rest.length - left.length))
      | _ => .error (stray fuel true after none)

def readList : Nat → Bool → Cursor → Except Complaint (Script × Cursor)
  | 0, _, c => c.refuse "too long"
  | fuel + 1, mayEnd, c =>
    let c := c.skipLines
    if c.next = .ended ∨ mayEnd ∧ c.endsList then .ok (.nothing, c)
    else do
      let (first, c) ← readJoined fuel c
      match c.next with
      | .mark "&" => do
        let (more, c) ← readList fuel true (c.skipBlanks.drop 1)
        .ok (.inTurn (.aside first) more, c)
      | .mark ";" => do
        let (more, c) ← readList fuel true (c.skipBlanks.drop 1)
        .ok (.inTurn first more, c)
      | .newline => do
        let (more, c) ← readList fuel true c
        .ok (.inTurn first more, c)
      | _ => .ok (first, c)

def readJoined : Nat → Cursor → Except Complaint (Script × Cursor)
  | 0, c => c.refuse "too long"
  | fuel + 1, c => do
    let (first, c) ← readPipeline fuel c
    readMore fuel first c

def readMore : Nat → Script → Cursor → Except Complaint (Script × Cursor)
  | 0, _, c => c.refuse "too long"
  | fuel + 1, first, c =>
    match c.next with
    | .mark "&&" => do
      let (second, c) ← readPipeline fuel (c.skipBlanks.drop 2).skipLines
      readMore fuel (.both first second) c
    | .mark "||" => do
      let (second, c) ← readPipeline fuel (c.skipBlanks.drop 2).skipLines
      readMore fuel (.either first second) c
    | _ => .ok (first, c)

def readPipeline : Nat → Cursor → Except Complaint (Script × Cursor)
  | 0, c => c.refuse "too long"
  | fuel + 1, c =>
    if c.keyword? = some "!" then do
      let (script, c) ← readPiped fuel (c.skipBlanks.drop 1)
      .ok (.negated script, c)
    else readPiped fuel c

def readPiped : Nat → Cursor → Except Complaint (Script × Cursor)
  | 0, c => c.refuse "too long"
  | fuel + 1, c => do
    let (first, c) ← readCommand fuel c
    match c.next with
    | .mark "|" => do
      let (second, c) ← readPiped fuel (c.skipBlanks.drop 1).skipLines
      .ok (.piped first second, c)
    | _ => .ok (first, c)

def readCommand : Nat → Cursor → Except Complaint (Script × Cursor)
  | 0, c => c.refuse "too long"
  | fuel + 1, c =>
    let c := c.skipBlanks
    match c.next, c.keyword? with
    | _, some "if" => do
      let (script, c) ← readChoice fuel (c.drop 2)
      readRedirects fuel script [] c
    | _, some "while" => do
      let (script, c) ← readLoop fuel true (c.drop 5)
      readRedirects fuel script [] c
    | _, some "until" => do
      let (script, c) ← readLoop fuel false (c.drop 5)
      readRedirects fuel script [] c
    | _, some "for" => do
      let (script, c) ← readEach fuel (c.drop 3)
      readRedirects fuel script [] c
    | _, some "case" => do
      let (script, c) ← readBranches fuel (c.drop 4)
      readRedirects fuel script [] c
    | _, some "\x7b" => do
      let (script, c) ← readList fuel false (c.drop 1)
      let c ← demand fuel true "\x7d" c
      readRedirects fuel script [] c
    | .mark "(", _ => do
      let (script, c) ← readList fuel false (c.drop 1)
      let c ← demand fuel true ")" c
      readRedirects fuel (.apart script) [] c
    | .word _, none => readSimple fuel { line := c.line } c
    | .redirect, _ => readSimple fuel { line := c.line } c
    | _, _ => .error (stray fuel true c none)

def readRedirects : Nat → Script → List (Redirect Word) → Cursor →
    Except Complaint (Script × Cursor)
  | 0, _, _, c => c.refuse "too long"
  | fuel + 1, script, done, c =>
    match c.next with
    | .redirect => do
      let (r, c) ← readRedirect fuel c
      readRedirects fuel script (done ++ [r]) c
    | _ => .ok (if done.isEmpty then script else .redirected script done, c)

def readWord : Nat → Cursor → Except Complaint (Word × Cursor)
  | 0, c => c.refuse "too long"
  | fuel + 1, c =>
    match c.next with
    | .word _ => readParts fuel .blank [] c.skipBlanks
    | _ => .error (stray fuel true c none)

def readRedirect : Nat → Cursor → Except Complaint (Redirect Word × Cursor)
  | 0, c => c.refuse "too long"
  | fuel + 1, c => do
    let (descriptor, sign, c) := c.redirectSign
    let (w, c) ← readWord fuel c
    if ['<', '<'].isPrefixOf sign then
      let quoted := w.any isQuoted
      let (text, c) := c.cutText ⟨unquotedText w, sign.length = 3, !quoted⟩
      if quoted then .ok (⟨descriptor, .text, [.text text true]⟩, c)
      else do
        let (body, _) ← readParts fuel .text [] ⟨text, c.line + 1, 0⟩
        .ok (⟨descriptor, .text, body⟩, c)
    else .ok (⟨descriptor, directionOf sign, w⟩, c)

def readSimple : Nat → Simple Word → Cursor → Except Complaint (Script × Cursor)
  | 0, _, c => c.refuse "too long"
  | fuel + 1, s, c =>
    match c.next with
    | .redirect => do
      let (r, c) ← readRedirect fuel c
      readSimple fuel { s with redirects := s.redirects ++ [r] } c
    | .word _ => do
      let (w, c) ← readWord fuel c
      let first := s.words.isEmpty && s.assignments.isEmpty && s.redirects.isEmpty
      let s := if first then { s with line := c.line } else s
      match s.words, assignment? w with
      | [], some a => readSimple fuel { s with assignments := s.assignments ++ [a] } c
      | _, _ => readSimple fuel { s with words := s.words ++ [w] } c
    | .mark "(" =>
      match s.assignments, s.words, s.redirects with
      | [], [w], [] => readFunction fuel s.line w (c.skipBlanks.drop 1)
      | _, _, _ => .ok (.simple s, c)
    | _ => .ok (.simple s, c)

def readFunction : Nat → Nat → Word → Cursor → Except Complaint (Script × Cursor)
  | 0, _, _, c => c.refuse "too long"
  | fuel + 1, line, w, c => do
    let c ← demand fuel false ")" c
    match plainText? w with
    | some name =>
      if isName name ∧ !specialNames.contains (String.ofList name) then
        let (body, c) ← readCommand fuel c.skipLines
        .ok (.function (String.ofList name) line body, c)
      else c.refuse "Bad function name"
    | none => c.refuse "Bad function name"

def readLoop : Nat → Bool → Cursor → Except Complaint (Script × Cursor)
  | 0, _, c => c.refuse "too long"
  | fuel + 1, wanted, c => do
    let (condition, c) ← readList fuel false c
    let c ← demand fuel true "do" c
    let (body, c) ← readList fuel false c
    let c ← demand fuel true "done" c
    .ok (.loop wanted condition body, c)

def readChoice : Nat → Cursor → Except Complaint (Script × Cursor)
  | 0, c => c.refuse "too long"
  | fuel + 1, c => do
    let (condition, c) ← readList fuel false c
    let c ← demand fuel true "then" c
    let (yes, c) ← readList fuel false c
    match c.keyword? with
    | some "elif" => do
      let (no, c) ← readChoice fuel (c.skipBlanks.drop 4)
      .ok (.choice condition yes no, c)
    | some "else" => do
      let (no, c) ← readList fuel false (c.skipBlanks.drop 4)
      let c ← demand fuel true "fi" c
      .ok (.choice condition yes no, c)
    | _ => do
      let c ← demand fuel true "fi" c
      .ok (.choice condition yes .nothing, c)

def readEach : Nat → Cursor → Except Complaint (Script × Cursor)
  | 0, c => c.refuse "too long"
  | fuel + 1, c =>
    match c.next with
    | .word _ => do
      let (w, c) ← readWord fuel c
      match (plainText? w).filter isName with
      | none => c.refuse "Bad for loop variable"
      | some name => do
        let (words, c) ←
          if c.skipLines.keyword? = some "in" then do
            let (words, c) ← readWords fuel [] (c.skipLines.drop 2)
            match c.next with
            | .newline => .ok (words, c)
            | .mark ";" => .ok (words, c.skipBlanks.drop 1)
            | _ => .error (stray fuel true c none)
          else if c.skipLines.next = .mark ";" then
            .ok (allArguments, c.skipLines.drop 1)
          else .ok (allArguments, c)
        let c ← demand fuel true "do" c.skipLines
        let (body, c) ← readList fuel false c
        let c ← demand fuel true "done" c
        .ok (.each (String.ofList name) words body, c)
    | _ => c.skipBlanks.refuse "Bad for loop variable"

def readWords : Nat → List Word → Cursor → Except Complaint (List Word × Cursor)
  | 0, _, c => c.refuse "too long"
  | fuel + 1, done, c =>
    match c.next with
    | .word _ => do
      let (w, c) ← readWord fuel c
      readWords fuel (done ++ [w]) c
    | _ => .ok (done, c)

def readBranches : Nat → Cursor → Except Complaint (Script × Cursor)
  | 0, c => c.refuse "too long"
  | fuel + 1, c =>
    match c.next with
    | .word _ => do
      let (subject, c) ← readWord fuel c
      let c ← demand fuel true "in" c.skipLines
      let (choices, c) ← readBranchList fuel [] c
      .ok (.branches subject choices, c)
    | _ => .error (stray fuel true c (some "word"))

def readBranchList : Nat → List (List Word × Script) → Cursor →
    Except Complaint (List (List Word × Script) × Cursor)
  | 0, _, c => c.refuse "too long"
  | fuel + 1, done, c =>
    let c := c.skipLines
    if c.keyword? = some "esac" then .ok (done, c.drop 4)
    else do
      let c := if c.next = .mark "(" then c.drop 1 else c
      let (patterns, c) ← readPatterns fuel [] c
      let c ← demand fuel false ")" c
      let (body, c) ← readList fuel true c
      let done := done ++ [(patterns, body)]
      let c := c.skipLines
      if c.keyword? = some "esac" then .ok (done, c.drop 4)
      else do
        let c ← demand fuel true ";;" c
        readBranchList fuel done c

def readPatterns : Nat → List Word → Cursor → Except Complaint (List Word × Cursor)
  | 0, _, c => c.refuse "too long"
  | fuel + 1, done, c => do
    let (w, c) ← match c.next with
      | .word _ => readWord fuel c
      | .mark m => .ok ([], c.skipBlanks.drop m.length)
      | .newline => .ok ([], c.skipBlanks.step)
      | .redirect => .ok ([], c.redirectSign.2.2)
      | .ended => .ok ([], c)
    let done := done ++ [w]
    match c.next with
    | .mark "|" => readPatterns fuel done (c.skipBlanks.drop 1)
    | _ => .ok (done, c)


def demand : Nat → Bool → String → Cursor → Except Complaint Cursor
  | 0, _, _, c => c.refuse "too long"
  | fuel + 1, known, text, c =>
    if c.startsWith text then .ok (c.skipBlanks.drop text.length)
    else .error (stray fuel known c (some text))

def stray : Nat → Bool → Cursor → Option String → Complaint
  | 0, known, c, expected => c.unexpected known expected
  | fuel + 1, known, c, expected =>
    match c.next with
    | .word _ =>
      match readParts fuel .blank [] c.skipBlanks with
      | .ok (_, after) => { c.unexpected known expected with line := after.line }
      | .error e => e
    | _ => c.unexpected known expected

end

def enoughFor (text : List Char) : Nat := 12 * text.length + 64

def readRow (fuel : Nat) : Nat → Script → Cursor → Except Complaint (Script × Cursor)
  | 0, _, c => c.refuse "too long"
  | most + 1, before, c =>
    match c.next with
    | .ended => .ok (before, c.skipBlanks)
    | .newline => .ok (before, c.skipBlanks.step)
    | _ => do
      let (script, c) ← readJoined fuel c
      match c.next with
      | .mark "&" => readRow fuel most (.inTurn before (.aside script)) (c.skipBlanks.drop 1)
      | .mark ";" => readRow fuel most (.inTurn before script) (c.skipBlanks.drop 1)
      | .newline => .ok (.inTurn before script, c.skipBlanks.step)
      | .ended => .ok (.inTurn before script, c.skipBlanks)
      | _ => .error (stray fuel true c none)

def Cursor.row (c : Cursor) : Except Complaint (Script × Cursor) :=
  let fuel := enoughFor c.rest
  readRow fuel fuel .nothing c

end VmBridge.Programs.Shell
