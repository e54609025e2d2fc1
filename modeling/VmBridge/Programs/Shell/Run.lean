import VmBridge.Command.Checked
import VmBridge.Programs.Shell.Builtin
import VmBridge.Programs.Shell.Reader
/-! Running scripts. The fuel bounds how deep scripts are nested and how often a loop goes
round; a script that needs more counts as killed. -/
namespace VmBridge.Programs.Shell
open Text (Bytes)
open Command (WaitStatus)

structure Start where
  command : Command
  files : Files.Tree
  input : Option Bytes := some []
  exported : List (String × String) := []
  process : Nat := 1000

inductive Stream where
  | stdout
  | stderr
  deriving DecidableEq, Repr

def Stream.descriptor : Stream → Nat
  | stdout => 1
  | stderr => 2

structure Ended where
  status : WaitStatus
  written : List (Stream × Bytes) := []
  files : Files.Tree
  input : Bytes := []

abbrev Launch := Start → Except IoFault Ended

def notFound (n : Int) : Bool := n = Errno.noSuchFile || n = Errno.notADirectory

def countedStatus (s : WaitStatus) : Nat :=
  match s.code?, s.signal? with
  | some code, _ => code
  | none, some signal => 128 + signal
  | none, none => 128

def signalNotice? (signal : Nat) : Option String :=
  [(1, "Hangup"), (3, "Quit"), (4, "Illegal instruction"), (5, "Trace/breakpoint trap"),
    (6, "Aborted"), (7, "Bus error"), (8, "Floating point exception"), (9, "Killed"),
    (10, "User defined signal 1"), (11, "Segmentation fault"), (12, "User defined signal 2"),
    (14, "Alarm clock"), (15, "Terminated")].lookup signal

def openFault (n : Int) : String := if notFound n then "No such file" else Errno.sentence n

def createFault (n : Int) : String :=
  if notFound n then "Directory nonexistent" else Errno.sentence n

def standardDescriptor? (path : String) : Option Nat :=
  [("/dev/stdin", 0), ("/dev/stdout", 1), ("/dev/stderr", 2), ("/dev/fd/0", 0), ("/dev/fd/1", 1),
    ("/dev/fd/2", 2)].lookup path

namespace State

def openToRead (s : State) (descriptor : Nat) (path : String) : State × Bool :=
  match (standardDescriptor? path).bind s.port? with
  | some port => (s.connect descriptor port, true)
  | none =>
    match s.files.resolve (Text.octetBytes path) with
    | .ok (.file content) => (s.connectSource descriptor content, true)
    | .ok _ => (s.connect descriptor .nowhere, true)
    | .error n => (s.refuse 2 s!"cannot open {path}: {openFault n}", false)

def openToWrite (s : State) (descriptor : Nat) (path : String) (keeps : Bool) : State × Bool :=
  let bytes := Text.octetBytes path
  match (standardDescriptor? path).bind s.port? with
  | some port => (s.connect descriptor port, true)
  | none =>
    match s.files.placeToWrite bytes with
    | .error n => (s.refuse 2 s!"cannot create {path}: {createFault n}", false)
    | .ok place =>
      match s.files.find? place with
      | some .device => (s.connect descriptor .nowhere, true)
      | _ =>
        let old := if keeps then s.files.content place else []
        ({ s with files := s.files.put place (.file old) }.connect descriptor (.file place), true)

def wouldLose (s : State) (path : String) : Bool :=
  s.flags.spares && (standardDescriptor? path).isNone &&
    match s.files.resolve (Text.octetBytes path) with
    | .ok (.file _) => true
    | _ => false

def copyDescriptor (s : State) (descriptor : Nat) (word : String) (untouched : Bool) :
    State × Bool :=
  match word.toList with
  | [c] =>
    if c = '-' then (s.disconnect descriptor, true)
    else
      match s.port? (c.toNat - 48) with
      | some port => (s.connect descriptor port, true)
      | none =>
        let s := if untouched then s.disconnect descriptor else s
        (s.refuse 2 s!"{word}: Bad file descriptor", false)
  | _ => (s, false)

def isDescriptor (word : String) : Bool :=
  match word.toList with
  | [c] => c = '-' || c.isDigit
  | _ => false

def targets (capture : Capture) : List (Redirect Word) → State → List (Redirect String) × State
  | [], s => ([], s)
  | r :: rest, s =>
    let (word, s) := text capture r.target s
    if s.halt.isSome then ([], s)
    else if r.direction = .copy ∧ !isDescriptor word then
      ([], { s with line := s.reached }.fail "Syntax error: Bad fd number")
    else
      let (later, s) := targets capture rest s
      (⟨r.descriptor, r.direction, word⟩ :: later, s)

def redirect (s : State) (r : Redirect String) (untouched : Bool) : State × Bool :=
  match r.direction with
  | .read => s.openToRead r.descriptor r.target
  | .write =>
    if s.wouldLose r.target then
      (s.refuse 2 s!"cannot create {r.target}: {createFault Errno.fileExists}", false)
    else s.openToWrite r.descriptor r.target false
  | .overwrite => s.openToWrite r.descriptor r.target false
  | .append => s.openToWrite r.descriptor r.target true
  | .both => s.openToWrite r.descriptor r.target true
  | .copy => s.copyDescriptor r.descriptor r.target untouched
  | .text => (s.connectSource r.descriptor (Text.octetBytes r.target), true)

def connectAll : List Nat → List (Redirect String) → State → State × Bool
  | _, [], s => (s, true)
  | touched, r :: rest, s =>
    match s.redirect r (!touched.contains r.descriptor) with
    | (s, true) => connectAll (r.descriptor :: touched) rest s
    | (s, false) => (s, false)

def redirectAll (capture : Capture) (forGood : Bool) (redirects : List (Redirect Word))
    (s : State) : State × Bool :=
  let (found, s) := targets capture redirects s
  if s.halt.isSome then (s, false)
  else connectAll (if forGood then found.map (·.descriptor) else []) found s

def assignAll (capture : Capture) : List (String × Word) → State → List String × State
  | [], s => ([], s)
  | (name, w) :: rest, s =>
    let (value, s) := text capture w s
    if s.halt.isSome then ([], s)
    else
      let s := s.assign name value
      if s.halt.isSome then ([], s)
      else
        let (shown, s) := assignAll capture rest s
        (s!"{name}={value}" :: shown, s)

def trace (s : State) (port? : Option Port) (words : List String) : State :=
  if s.flags.traces ∧ words ≠ [] then
    let own := s.ports
    let start := (s.held? "PS4").getD ""
    let s := match port? with
      | some port => s.connect 2 port
      | none => s
    { s.put 2 (Text.octetBytes (start ++ " ".intercalate words ++ "\n")) with ports := own }
  else s

def launch (launch : Launch) (s : State) (given : List String) (name : String)
    (args : List String) : State :=
  if name = "" then s.refuse 127 ": Permission denied" else
  let exported := (s.bindings.filter fun v => v.exported || given.contains v.name).filterMap
    fun v => v.value.map (v.name, ·)
  let wide (word : String) : String := Text.Utf8.lossy (Text.octetBytes word)
  let shown := exported.map fun (name, value) => (name, wide value)
  match launch ⟨⟨wide name, args.map wide⟩, s.files, s.input?, shown, s.process + 1⟩ with
  | .ok e =>
    let s := e.written.foldl (fun s (stream, bytes) => s.put stream.descriptor bytes)
      (s.setInput e.input)
    let s := { s with files := { e.files with working := s.files.working } }
    let s := match e.status.signal?.bind signalNotice? with
      | some notice => s.put 2 (Text.octetBytes (notice ++ "\n"))
      | none => s
    s.settled (countedStatus e.status)
  | .error (.os n) =>
    if notFound n then s.refuse 127 s!"{name}: not found"
    else s.refuse 126 s!"{name}: {Errno.sentence n}"
  | .error (.custom text) => s.refuse 126 s!"{name}: {text}"

def setCommand (s : State) (command : Option String) : State := { s with command }
def setPorts (s : State) (ports : List (Nat × Port)) : State := { s with ports }
def setPending (s : State) (pending : List Nat) : State := { s with pending }
def setHalt (s : State) (halt : Option Halt) : State := { s with halt }
def enterLoop (s : State) : State := { s with loops := s.loops + 1 }
def leaveLoop (s : State) : State := { s with loops := s.loops - 1 }

def listened (s : State) : State := { s.child.connect 1 (.sink s.fresh) with fresh := s.fresh + 1 }

def afterListening (s inner : State) (port : Nat) : State :=
  s.after { inner with written := inner.written.filter (·.1 ≠ port) }

def leftAlone (s : State) : State := { s.child.connect 0 .nowhere with written := [] }

def afterLeaving (s inner : State) : State :=
  let t := s.after inner
  { t with
    status := 0
    jobs := (s.process + 1 + s.jobs.length, inner.status) :: s.jobs
    written := s.written
    late := inner.written ++ s.late }

def define (s : State) (name : String) (line : Nat) (body : Script) : State :=
  { s with status := 0, functions := (name, line, body) :: s.functions.filter (·.1 ≠ name) }

def afterCapture (s inner : State) (port : Nat) : State :=
  let t := s.afterListening inner port
  { t with status := s.status, captured := some inner.status }

def ready (s : State) (line : Nat) : State := { s with line := line - s.linesBefore, captured := none }

def entered (s : State) (args : List String) (line : Nat) : State :=
  { s with arguments := args, hidden := [] :: s.hidden, loops := 0, linesBefore := line - 1 }

def comeHome (s : State) : State := if s.halt = some .returned then s.setHalt none else s

def returned (after s : State) : State :=
  let put (t : State) (v : Variable) : State :=
    if v = { name := v.name } then t.dropVariable v.name else t.setVariable v
  let t := (after.hidden.headD []).foldl put after
  comeHome { t with
    arguments := s.arguments, hidden := s.hidden, loops := s.loops, linesBefore := s.linesBefore }

def upTo (s : State) (line : Nat) : State := { s with reached := line }

def failAt (s : State) (e : Complaint) : State := { s with line := e.line }.fail e.text

def calmTraps (s : State) : State := { s with traps := [] }

def calmed (s : State) : State :=
  { s with traps := s.traps.filter (·.1 ≠ 0), halt := none }

def withCommand (s : State) (name : String) (body : State → State) : State :=
  (body (s.setCommand (some name))).setCommand s.command

def special (name : String) : Bool := specialNames.contains name

def checked (s : State) (tested : Bool) : State :=
  if s.flags.stops ∧ !tested ∧ !s.succeeded ∧ s.halt.isNone then s.quit s.status else s

def roundOver (s : State) : State × Bool :=
  match s.halt with
  | none => (s, true)
  | some (.left n again) =>
    if 1 < n then ({ s with halt := some (.left (n - 1) again) }, false)
    else ({ s with halt := none }, again)
  | some _ => (s, false)

def fieldsOf (s : State) (capture : Capture) (words : List Word) : List String × State :=
  fields capture words s

def quietly (text : String) : Bool :=
  text.toList.all fun c => c = ' ' || c = '\t' || c = '\n'

end State

def withoutLineEnds (cs : List Char) : List Char :=
  (cs.reverse.dropWhile (· = '\n')).reverse

def mostCalls : Nat := 1000

def exhausted (s : State) : State := { s with halt := some (.killed 9) }

mutual

def run (launch : Launch) : Nat → Bool → Script → State → State
  | 0, _, _, s => exhausted s
  | fuel + 1, tested, script, s =>
    if s.halt.isSome ∨ s.flags.idle then s
    else
      caught launch fuel <| match script with
        | .nothing => s
        | .simple c => (perform launch fuel tested c s).checked tested
        | .inTurn first second => run launch fuel tested second (run launch fuel tested first s)
        | .both first second =>
          let s := run launch fuel true first s
          if s.halt.isNone ∧ s.succeeded then run launch fuel tested second s else s
        | .either first second =>
          let s := run launch fuel true first s
          if s.halt.isNone ∧ !s.succeeded then run launch fuel tested second s else s
        | .negated script =>
          let s := run launch fuel true script s
          if s.halt.isSome then s else s.settled (if s.succeeded then 1 else 0)
        | .piped first second =>
          let inner := goodbye launch fuel (run launch fuel tested first s.listened)
          let t := s.afterListening inner s.fresh
          if t.halt.isSome then t
          else
            let reader := (t.settled s.status).child.connectSource 0 (inner.stream s.fresh)
            let inner := goodbye launch fuel (run launch fuel tested second reader)
            (t.after inner).checked tested
        | .choice condition yes no =>
          let s := run launch fuel true condition s
          if s.halt.isSome then s
          else if s.succeeded then run launch fuel tested yes s
          else
            match no with
            | .nothing => s.settled 0
            | _ => run launch fuel tested no s
        | .loop wanted condition body =>
          (rounds launch fuel tested wanted condition body 0 s.enterLoop).leaveLoop
        | .each name words body =>
          let (fields, s) := s.fieldsOf (capture launch fuel) words
          if s.halt.isSome then s
          else
            (turns launch fuel tested name fields body (s.settled 0).enterLoop).leaveLoop
        | .branches subject choices =>
          let (value, s) := State.text (capture launch fuel) subject s
          if s.halt.isSome then s
          else branch launch fuel tested value.toList choices (s.settled 0)
        | .redirected script redirects =>
          let own := s.ports
          match State.redirectAll (capture launch fuel) script.isApart redirects s with
          | (s, true) => (run launch fuel tested script s).setPorts own
          | (s, false) => s.setPorts own
        | .apart script =>
          (s.after (goodbye launch fuel (run launch fuel tested script s.child))).checked tested
        | .aside script =>
          s.afterLeaving (goodbye launch fuel (run launch fuel tested script s.leftAlone))
        | .function name line body => s.define name line body

def capture (launch : Launch) : Nat → Script → State → List Char × State
  | 0, _, s => ([], exhausted s)
  | fuel + 1, script, s =>
    let inner := goodbye launch fuel (run launch fuel false script s.listened)
    let printed := Text.octets ((inner.stream s.fresh).filter (· ≠ 0))
    (withoutLineEnds printed, s.afterCapture inner s.fresh)

def rounds (launch : Launch) : Nat → Bool → Bool → Script → Script → Nat → State → State
  | 0, _, _, _, _, _, s => exhausted s
  | fuel + 1, tested, wanted, condition, body, last, s =>
    match (run launch fuel true condition s).roundOver with
    | (s, false) => s
    | (s, true) =>
      if s.succeeded = wanted then
        match (run launch fuel tested body s).roundOver with
        | (s, false) => s
        | (s, true) => rounds launch fuel tested wanted condition body s.status s
      else s.settled last

def turns (launch : Launch) : Nat → Bool → String → List String → Script → State → State
  | 0, _, _, _, _, s => exhausted s
  | _ + 1, _, _, [], _, s => s
  | fuel + 1, tested, name, field :: rest, body, s =>
    let s := s.assign name field
    match (run launch fuel tested body s).roundOver with
    | (s, false) => s
    | (s, true) => turns launch fuel tested name rest body s

def branch (launch : Launch) : Nat → Bool → List Char → List (List Word × Script) → State →
    State
  | 0, _, _, _, s => exhausted s
  | _ + 1, _, _, [], s => s
  | fuel + 1, tested, subject, (patterns, body) :: rest, s =>
    match patterns with
    | [] => branch launch fuel tested subject rest s
    | w :: more =>
      let (p, s) := State.glob (capture launch fuel) w s
      if s.halt.isSome then s
      else if p.fits subject then run launch fuel tested body s
      else branch launch fuel tested subject ((more, body) :: rest) s

def perform (launch : Launch) : Nat → Bool → Simple Word → State → State
  | 0, _, _, s => exhausted s
  | fuel + 1, tested, c, s =>
    let s := s.ready c.line
    let (fields, s) := s.fieldsOf (capture launch fuel) c.words
    if s.halt.isSome then s
    else
      let own := s.ports
      let shownOn := s.port? 2
      match State.redirectAll (capture launch fuel) false c.redirects s with
      | (s, false) =>
        let s := s.setPorts own
        match fields with
        | name :: _ =>
          if State.special name ∧ s.halt.isNone then s.setHalt (some .failed) else s
        | [] => s
      | (s, true) =>
        match fields with
        | [] =>
          let (shown, s) := State.assignAll (capture launch fuel) c.assignments s
          let s := s.trace shownOn shown
          let s := if s.halt.isSome then s else s.settled (s.captured.getD 0)
          s.setPorts own
        | name :: args =>
          let before := s
          let (shown, s) := State.assignAll (capture launch fuel) c.assignments s
          if s.halt.isSome then s.setPorts own
          else
            let s := s.trace shownOn (shown ++ name :: args)
            let names := c.assignments.map Prod.fst
            let s := invoke launch fuel tested false names name args s
            let s := if State.special name then s else s.restored before names
            if name = "exec" ∧ args = [] then s else s.setPorts own

def invoke (launch : Launch) : Nat → Bool → Bool → List String → String → List String →
    State → State
  | 0, _, _, _, _, _, s => exhausted s
  | fuel + 1, tested, plain, given, name, args, s =>
    let function? := if plain ∨ State.special name then none
      else s.functions.find? (·.1 = name)
    match function?, State.builtin? name with
    | some (_, line, body), _ => call launch fuel tested line body args s
    | none, some f => s.withCommand name (f · args)
    | none, none =>
      match name, args with
      | "eval", _ =>
        let text := " ".intercalate args
        if State.quietly text then s.settled 0
        else s.withCommand name (runText launch fuel tested ⟨text.toList, 1, 0⟩)
      | "exec", [] => s.settled 0
      | "exec", program :: rest =>
        let s := s.withCommand name (State.launch launch · given program rest)
        if s.status = 126 ∨ s.status = 127 then s.quit s.status
        else (s.quit s.status).calmTraps
      | ".", [] => s.settled 0
      | ".", path :: _ => source launch fuel tested path s
      | "command", [] => s.settled 0
      | "command", word :: rest =>
        match word with
        | "-v" => s.describe rest
        | "-V" => s.type (rest.take 1)
        | _ =>
          match word.toList, rest with
          | '-' :: _, program :: rest =>
            if word = "--" ∨ word = "-p" then bare launch fuel tested given program rest s
            else s.withCommand name fun s => s.refuse 2 s!"Illegal option {word}"
          | '-' :: _, [] => s.settled 0
          | _, _ => bare launch fuel tested given word rest s
      | _, _ => s.launch launch given name args

def bare (launch : Launch) : Nat → Bool → List String → String → List String → State → State
  | 0, _, _, _, _, s => exhausted s
  | fuel + 1, tested, given, name, args, s =>
    let after := invoke launch fuel tested true given name args s
    if after.halt = some .failed then after.setHalt none else after

def call (launch : Launch) : Nat → Bool → Nat → Script → List String → State → State
  | 0, _, _, _, _, s => exhausted s
  | fuel + 1, tested, line, body, args, s =>
    if mostCalls ≤ s.hidden.length then
      s.fail s!"Maximum function recursion depth ({mostCalls}) reached"
    else (run launch fuel tested body (s.entered args line)).returned s

def source (launch : Launch) : Nat → Bool → String → State → State
  | 0, _, _, s => exhausted s
  | fuel + 1, tested, path, s =>
    s.withCommand "." fun s =>
      if !path.toList.contains '/' then s.fail s!"{path}: not found"
      else
        match s.files.resolve (Text.octetBytes path) with
        | .ok (.file content) =>
          (runText launch fuel tested ⟨Text.octets content, 1, 0⟩ (s.setCommand none)).comeHome
        | .ok _ => s.settled 0
        | .error n => s.fail s!"cannot open {path}: {openFault n}"

def runText (launch : Launch) : Nat → Bool → Cursor → State → State
  | 0, _, _, s => exhausted s
  | fuel + 1, tested, c, s =>
    if s.halt.isSome ∨ c.rest.isEmpty then s
    else
      match c.row with
      | .error e => s.failAt e
      | .ok (script, c) =>
        runText launch fuel tested c (run launch fuel tested script (s.upTo c.line))

def caught (launch : Launch) : Nat → State → State
  | 0, s => exhausted s
  | fuel + 1, s =>
    match s.halt, s.pending with
    | some _, _ => s
    | none, [] => s
    | none, signal :: rest =>
      let s := s.setPending rest
      match s.traps.lookup signal with
      | some text =>
        let after := runText launch fuel false ⟨text.toList, 1, 0⟩ s
        if after.halt.isSome then after else caught launch fuel (after.settled s.status)
      | none => caught launch fuel s

def goodbye (launch : Launch) : Nat → State → State
  | 0, s => exhausted s
  | fuel + 1, s =>
    match s.halt, s.traps.lookup 0 with
    | some (.killed _), _ => s.flushed
    | _, none => s.flushed
    | _, some text =>
      let after := (runText launch fuel false ⟨text.toList, 1, 0⟩ s.calmed).flushed
      if after.halt.isSome then after else after.settled s.status

end

def mostSteps : Nat := 1000000

def State.ended (s : State) : Ended :=
  let status := match s.halt with
    | some (.killed signal) => WaitStatus.killed signal
    | _ => WaitStatus.exited s.status
  let written := s.written.reverse.filterMap fun (n, bytes) =>
    if n = 1 then some (Stream.stdout, bytes)
    else if n = 2 then some (Stream.stderr, bytes)
    else none
  ⟨status, written, s.files, s.source 0⟩

def initialVariables : List Variable := [
  { name := "IFS", value := some " \t\n" }, { name := "OPTIND", value := some "1" },
  { name := "PS4", value := some "+ " }]

def output (launch : Launch) (start : Start) (name : String) (arguments : List String)
    (flags : Flags) (text : Bytes) : Ended :=
  let given : List Variable := start.exported.map fun (name, value) =>
    { name, value := some (Text.octetText value), exported := true }
  let bindings := initialVariables ++ given.filter (·.name ≠ "IFS")
  let s : State :=
    { name := Text.octetText name
      arguments := arguments.map Text.octetText
      process := start.process
      files := start.files
      sources := [(0, start.input.getD [])]
      bindings
      line := 0 }
  let jobs := if flags.has "interactive" then flags.put "monitor" true else flags
  let s := { s.withFlags jobs with line := 1 }
  let s := if start.input.isNone then s.disconnect 0 else s
  (goodbye launch mostSteps (runText launch mostSteps false ⟨Text.octets text, 1, 0⟩ s)).ended

end VmBridge.Programs.Shell
