import VmBridge.Text.Pattern.CharSet
/-! Reading a pattern. Groups that are still open are kept on a stack, with what stands before
them, so that the innermost of them can be blamed for not being closed. -/
namespace VmBridge.Text.Pattern

structure Level where
  members : List (Option Pattern) := []
  branches : Option Pattern := none
  flags : Flags
  opened : Span := ⟨0, 0⟩

namespace Level

def add (l : Level) (p : Pattern) : Level := { l with members := some p :: l.members }

def branch (l : Level) : Pattern :=
  l.members.foldl (fun later p => match p with
    | some p => .inTurn p later
    | none => later) .nothing

def whole (l : Level) : Pattern :=
  match l.branches with
  | some before => .either before l.branch
  | none => l.branch

def nextBranch (l : Level) : Level := { l with branches := some l.whole, members := [] }

def repeating (l : Level) (span : Span) (least : Nat) (most : Option Nat) :
    Except Fault Level :=
  match l.members with
  | some p :: rest => .ok { l with members := some (.repeated p least most) :: rest }
  | _ => blame .nothingToRepeat span

end Level

structure Draft where
  level : Level
  outer : List Level := []
  names : List (List Char × Span) := []

structure FlagList where
  letters : List (Char × Bool × Span) := []
  sign : Option Span := none

namespace FlagList

def isFlag (c : Char) : Bool := "imsUuRx".toList.contains c

def add (l : FlagList) (c : Char) (span : Span) : Except Fault FlagList :=
  if c = '-' then
    match l.sign with
    | some earlier => .error { flaw := .flagNegatedTwice, span, earlier := some earlier }
    | none => .ok { l with sign := some span }
  else if !isFlag c then blame .flagUnknown span
  else
    match l.letters.find? (·.1 = c) with
    | some (_, _, earlier) => .error { flaw := .flagTwice, span, earlier := some earlier }
    | none => .ok { l with letters := l.letters ++ [(c, l.sign.isNone, span)] }

def set (f : Flags) (letter : Char) (on : Bool) : Flags :=
  match letter with
  | 'i' => { f with ignoreCase := on }
  | 'm' => { f with lines := on }
  | 's' => { f with acrossLines := on }
  | 'x' => { f with spaced := on }
  | _ => f

def applied (l : FlagList) (f : Flags) : Flags :=
  l.letters.foldl (fun f (letter, on, _) => set f letter on) f

def isEmpty (l : FlagList) : Bool := l.letters.isEmpty && l.sign.isNone

def read (l : FlagList) (last : Option Span) :
    Nat → Cursor → Except Fault (FlagList × Cursor)
  | 0, c => blame .flagCut c.here
  | fuel + 1, c =>
    match c.char? with
    | none => blame .flagCut c.here
    | some d =>
      if d = ':' ∨ d = ')' then
        match last with
        | some span => blame .flagDangling span
        | none => .ok (l, c)
      else do
        let l ← l.add d c.character
        read l (if d = '-' then some c.character else none) fuel c.next

end FlagList

namespace Draft

def isNameChar (first : Bool) (c : Char) : Bool :=
  let letter := isWordChar c && !c.isDigit
  if first then letter else letter || c.isDigit || ['.', '[', ']'].contains c

def groupName (first : Bool) : Nat → Cursor → Except Fault (List Char × Cursor)
  | 0, c => blame .nameCut c.here
  | fuel + 1, c =>
    match c.char? with
    | none => blame .nameCut c.here
    | some '>' => .ok ([], c)
    | some d =>
      if isNameChar first d then
        (groupName false fuel c.next).map fun (name, stop) => (d :: name, stop)
      else blame .nameCharacter c.character

def enter (d : Draft) (flags : Flags) (opened : Span) : Draft :=
  { d with level := { flags, opened }, outer := d.level :: d.outer }

def enterNamed (d : Draft) (opened : Span) (c : Cursor) : Except Fault (Draft × Cursor) := do
  let (name, stop) ← groupName true (c.rest.length + 1) c
  if name = [] then blame .nameEmpty c.here
  else
    let span := c.upTo stop
    match d.names.find? (·.1 = name) with
    | some (_, earlier) => .error { flaw := .nameTwice, span, earlier := some earlier }
    | none =>
      .ok ({ d with names := d.names ++ [(name, span)] }.enter d.level.flags opened, stop.next)

def enterFlagged (d : Draft) (opened : Span) (mark : Cursor) :
    Except Fault (Draft × Cursor) := do
  let c := mark.next
  if c.atEnd then blame .groupOpen opened
  else do
    let (list, stop) ← FlagList.read {} none (c.rest.length + 1) c
    let flags := list.applied d.level.flags
    if stop.char? = some ':' then .ok (d.enter flags opened, stop.next)
    else if list.isEmpty then blame .nothingToRepeat mark.here
    else
      let level := { d.level with flags, members := none :: d.level.members }
      .ok ({ d with level }, stop.next)

def lookAheads : List (List Char) := ["?=", "?!", "?<=", "?<!"].map String.toList

def openGroup (d : Draft) (start : Cursor) : Except Fault (Draft × Cursor) :=
  let opened := start.character
  let c := start.nextSkip d.level.flags
  match lookAheads.find? (c.startsWith ·) with
  | some word => blame .lookAround (start.upTo (c.jump word.length))
  | none =>
    if c.startsWith "?P<".toList then d.enterNamed opened (c.jump 3)
    else if c.startsWith "?<".toList then d.enterNamed opened (c.jump 2)
    else if c.char? = some '?' then d.enterFlagged opened c
    else .ok (d.enter d.level.flags opened, c)

def closeGroup (d : Draft) (c : Cursor) : Except Fault (Draft × Cursor) :=
  match d.outer with
  | [] => blame .groupUnopened c.character
  | level :: outer => .ok ({ d with level := level.add d.level.whole, outer }, c.next)

def pastReluctance (c : Cursor) : Cursor := if c.char? = some '?' then c.next else c

def repeating (d : Draft) (c : Cursor) (least : Nat) (most : Option Nat) :
    Except Fault (Draft × Cursor) :=
  (d.level.repeating c.here least most).map fun level =>
    ({ d with level }, pastReluctance c.next)

def mostCount : Nat := 0xffffffff

def countDigits (f : Flags) : Nat → Cursor → List Char × Cursor
  | 0, c => ([], c)
  | fuel + 1, c =>
    match c.char? with
    | some d =>
      if d.isDigit then
        let (ds, stop) := countDigits f fuel (c.nextSkip f)
        (d :: ds, stop)
      else ([], c)
    | none => ([], c)

def pastBlanks (c : Cursor) : Cursor := c.jump (c.rest.takeWhile isBlank).length

def count (f : Flags) (c : Cursor) : Except Fault Nat × Cursor :=
  let start := pastBlanks c
  let (ds, stop) := countDigits f start.rest.length start
  let n := (takeDigits 10 ds.length 0 ds).1
  let found :=
    if ds = [] then blame .countEmpty (start.upTo stop)
    else if n ≤ mostCount then .ok n
    else blame .countInvalid (start.upTo stop)
  (found, pastBlanks stop)

def countRange (f : Flags) (start c : Cursor) :
    Except Fault ((Nat × Option Nat) × Cursor) := do
  let (least, stop) := count f c
  if stop.atEnd then blame .countOpen (start.upTo stop)
  else if stop.char? ≠ some ',' then do
    let n ← least
    .ok ((n, some n), stop)
  else
    let after := stop.nextSkip f
    if after.atEnd then blame .countOpen (start.upTo after)
    else if after.char? = some '}' then do
      let n ← least
      .ok ((n, none), after)
    else do
      let n ← least
      let (most, stop) := count f after
      let m ← most
      .ok ((n, some m), stop)

def counted (d : Draft) (start : Cursor) : Except Fault (Draft × Cursor) := do
  let f := d.level.flags
  let _ ← d.level.repeating start.here 0 none
  let c := start.nextSkip f
  if c.atEnd then blame .countOpen (start.upTo c)
  else do
    let ((least, most), stop) ← countRange f start c
    if stop.char? ≠ some '}' then blame .countOpen (start.upTo stop)
    else
      let after := pastReluctance (stop.nextSkip f)
      if most.any (· < least) then blame .countOrder (start.upTo after)
      else do
        let level ← d.level.repeating start.here least most
        .ok ({ d with level }, after)

def atomPattern (f : Flags) : Atom → Pattern
  | .char c => .one (folded f (· = c))
  | .among p => .one p
  | .border b => .border b

def anyChar (f : Flags) : Pattern := .one fun c => f.acrossLines || c != '\n'
def startBorder (f : Flags) : Pattern := .border (if f.lines then .lineStart else .textStart)
def endBorder (f : Flags) : Pattern := .border (if f.lines then .lineEnd else .textEnd)

def readMember (d : Draft) (c : Cursor) (first : Char) : Except Fault (Draft × Cursor) :=
  let f := d.level.flags
  let put (p : Pattern) (c : Cursor) : Except Fault (Draft × Cursor) :=
    .ok ({ d with level := d.level.add p }, c)
  match first with
  | '(' => d.openGroup c
  | ')' => d.closeGroup c
  | '|' => .ok ({ d with level := d.level.nextBranch }, c.next)
  | '[' => do
    let (s, after) ← CharSet.bracketed f (c.rest.length + 1) c
    put (.one s) after
  | '?' => d.repeating c 0 (some 1)
  | '*' => d.repeating c 0 none
  | '+' => d.repeating c 1 none
  | '{' => d.counted c
  | '.' => put (anyChar f) c.next
  | '^' => put (startBorder f) c.next
  | '$' => put (endBorder f) c.next
  | '\\' => do
    let (a, after) ← escaped f c
    put (atomPattern f a) after
  | first => put (atomPattern f (.char first)) c.next

def finished (d : Draft) : Except Fault Pattern :=
  match d.outer with
  | [] => .ok d.level.whole
  | _ :: _ => blame .groupOpen d.level.opened

def readAll (d : Draft) : Nat → Cursor → Except Fault Pattern
  | 0, _ => d.finished
  | fuel + 1, c =>
    let c := c.skip d.level.flags
    match c.char? with
    | none => d.finished
    | some first => do
      let (d, after) ← d.readMember c first
      readAll d fuel after

end Draft

def ofText (source : String) : Except Fault Pattern :=
  ({ level := { flags := {} } } : Draft).readAll (source.length + 1) (Cursor.of source)

end VmBridge.Text.Pattern
