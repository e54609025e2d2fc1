import VmBridge.Programs.Cat
import VmBridge.Programs.FileName
import VmBridge.Programs.Shell.Run
/-! Starting one of the programs that a tree of files holds. -/
namespace VmBridge.Programs
open Text (Bytes)
open Command (Output WaitStatus)
open Shell (Ended Start)

structure Userland where
  files : Files.Tree
  searchPath : List String

def nulFault : IoFault := .custom "nul byte found in provided data"

def refusal (p : Start) (code : Nat) (complaint : String) : Ended :=
  ⟨.exited code, [(.stderr, Text.Utf8.encode complaint)], p.files, p.input.getD []⟩

def success (p : Start) (stdout : Bytes) : Ended :=
  ⟨.exited 0, [(.stdout, stdout)], p.files, p.input.getD []⟩

structure Copying where
  place : CatStyle.Place := {}
  failed : Bool := false
  written : List (Shell.Stream × Bytes) := []
  input : Bytes

def Copying.file (c : Copying) (p : Start) (style : CatStyle) (name : String) : Copying :=
  let copied (content input : Bytes) : Copying :=
    let (bytes, place) := style.copy c.place content
    { c with place, written := c.written ++ [(.stdout, bytes)], input }
  let refused (reason : String) : Copying :=
    let complaint := Text.Utf8.encode s!"{p.command.program}: {FileName.shown name}: {reason}\n"
    { c with failed := true, written := c.written ++ [(.stderr, complaint)] }
  if name = "-" ∨ name = "/dev/stdin" then
    match p.input with
    | some _ => copied c.input []
    | none => refused "Bad file descriptor"
  else
    match p.files.read (Text.Utf8.encode name) with
    | .ok content => copied content c.input
    | .error (.os n) => refused (Errno.sentence n)
    | .error (.custom text) => refused text

def cat (p : Start) : Ended :=
  let program := p.command.program
  match catWords {} p.command.args with
  | .error text =>
    refusal p 1 s!"{program}: {text}\nTry '{program} --help' for more information.\n"
  | .ok (style, names) =>
    let names := if names = [] then ["-"] else names
    let start : Copying := { input := p.input.getD [] }
    let c := names.foldl (fun (c : Copying) name => c.file p style name) start
    let unread := p.input.isNone ∧ names.contains "-"
    let complaint := s!"{program}: closing standard input: Bad file descriptor\n"
    let written := if unread then c.written ++ [(.stderr, Text.Utf8.encode complaint)]
      else c.written
    ⟨.exited (if c.failed then 1 else 0), written, p.files, c.input⟩

def shell (launch : Shell.Launch) (p : Start) : Ended :=
  let name := p.command.program
  match Shell.Options.readWords true p.command.args none {} with
  | .error text => refusal p 2 s!"{name}: 0: {text}\n"
  | .ok call =>
    let run (p : Start) (name : String) (arguments : List String) (flags : Shell.Flags)
        (text : Bytes) : Ended :=
      let e := Shell.output launch p name arguments flags text
      { e with written := (.stdout, Text.Utf8.encode call.printed) :: e.written }
    let fromInput (arguments : List String) : Ended :=
      run { p with input := some [] } name arguments (call.flags.put "stdin" true)
        (p.input.getD [])
    match call.isText, call.operands with
    | true, [] => refusal p 2 s!"{name}: 0: -c requires an argument\n"
    | true, text :: rest =>
      run p (rest.headD name) rest.tail call.flags (Text.Utf8.encode text)
    | false, [] => fromInput []
    | false, file :: rest =>
      if call.flags.has "stdin" then fromInput call.operands
      else
        match p.files.read (Text.Utf8.encode file) with
        | .ok content => run p file rest call.flags content
        | .error (.os n) =>
          if n = Errno.isADirectory then success p []
          else refusal p 2 s!"{name}: 0: cannot open {file}: {Shell.openFault n}\n"
        | .error (.custom text) => refusal p 2 s!"{name}: 0: cannot open {file}: {text}\n"

def outcome (launch : Shell.Launch) (title : String) (p : Start) : Ended :=
  match title with
  | "true" => success p []
  | "echo" => success p (echo p.command.args)
  | "cat" => cat p
  | "sh" => shell launch p
  | _ => refusal p 1 ""

def outputOf (e : Ended) : Output :=
  let stream (which : Shell.Stream) : Bytes := (e.written.filter (·.1 = which)).flatMap Prod.snd
  ⟨e.status, stream .stdout, stream .stderr⟩

def locate (p : Start) : Except Int String :=
  let name := p.command.program
  if name.toList.contains '/' then p.files.program (Text.Utf8.encode name)
  else if name = "" then .error Errno.noSuchFile
  else
    let way := ((p.exported.lookup "PATH").getD "").splitOn ":"
    match way.findSome? fun place =>
      (p.files.program (Text.Utf8.encode s!"{place}/{name}")).toOption with
    | some title => .ok title
    | none => .error Errno.noSuchFile

def start : Nat → Start → Except IoFault Ended
  | 0, _ => .error (.os Errno.tryAgain)
  | depth + 1, p =>
    if p.command.words.any (·.toList.contains '\x00') then .error nulFault
    else
      match locate p with
      | .error n => .error (.os n)
      | .ok title => .ok (outcome (start depth) title p)

def mostProcesses : Nat := 8

def Userland.spawn {σ : Type} (u : Userland) (c : Command) (s : σ) :
    Except IoFault Output × σ :=
  let exported := [("PATH", ":".intercalate u.searchPath)]
  let p : Start := { command := c, files := u.files, exported }
  ((start mostProcesses p).map outputOf, s)

end VmBridge.Programs
