import VmBridge.Fault
import VmBridge.Files.Path
/-! A tree of files as system calls see it: a path is walked piece by piece, and the first
piece that cannot be taken decides the error number. -/
namespace VmBridge.Files
open Text (Bytes)

inductive Node where
  | file (content : Bytes)
  | directory
  | device
  | program (name : String)
  deriving DecidableEq, Repr, Inhabited

abbrev Place := List Bytes

structure Tree where
  entries : List (Place × Node)
  working : Place
  deriving Repr, Inhabited

def mostPieceBytes : Nat := 255
def mostPathBytes : Nat := 4095

namespace Tree

def find? (t : Tree) (place : Place) : Option Node :=
  match t.entries.find? (fun entry => entry.1 == place) with
  | some entry => some entry.2
  | none =>
    if place = [] ∨ t.entries.any (fun entry => place.isPrefixOf entry.1) then some .directory
    else none

def enter (t : Tree) (place : Place) (piece : Bytes) : Except Int Place :=
  if t.find? place ≠ some .directory then .error Errno.notADirectory
  else if piece = [] ∨ piece = [dot] then .ok place
  else if piece = [dot, dot] then .ok place.dropLast
  else if mostPieceBytes < piece.length then .error Errno.nameTooLong
  else if (t.find? (place ++ [piece])).isSome then .ok (place ++ [piece])
  else .error Errno.noSuchFile

def walk (t : Tree) : Place → List Bytes → Except Int Place
  | place, [] => .ok place
  | place, piece :: more => t.enter place piece >>= (t.walk · more)

def locate (t : Tree) (path : Bytes) : Except Int Place :=
  if path = [] then .error Errno.noSuchFile
  else if mostPathBytes < path.length then .error Errno.nameTooLong
  else t.walk (if path.head? = some slash then [] else t.working) (pieces path)

def resolve (t : Tree) (path : Bytes) : Except Int Node :=
  match t.locate path with
  | .error number => .error number
  | .ok place =>
    match t.find? place with
    | some node => .ok node
    | none => .error Errno.noSuchFile

def nulFault : IoFault := .custom "file name contained an unexpected NUL byte"
def encodingFault : IoFault := .custom "stream did not contain valid UTF-8"

def «exists» (t : Tree) (path : Bytes) : Bool :=
  !path.contains 0 && (t.resolve path).toOption.isSome

def read (t : Tree) (path : Bytes) : Except IoFault Bytes :=
  if path.contains 0 then .error nulFault
  else
    match t.resolve path with
    | .error number => .error (.os number)
    | .ok (.file content) => .ok content
    | .ok .directory => .error (.os Errno.isADirectory)
    | .ok _ => .ok []

def readText (t : Tree) (path : Bytes) : Except IoFault String :=
  match t.read path with
  | .error e => .error e
  | .ok content =>
    match Text.Utf8.decode? content with
    | some text => .ok text
    | none => .error encodingFault

def openFault? (t : Tree) (path : Bytes) : Option IoFault :=
  if path.contains 0 then some nulFault
  else
    match t.resolve path with
    | .error number => some (.os number)
    | .ok .directory => some (.os Errno.isADirectory)
    | .ok _ => none

def placeToWrite (t : Tree) (path : Bytes) : Except Int Place :=
  match t.locate path with
  | .ok place =>
    if t.find? place = some .directory then .error Errno.isADirectory else .ok place
  | .error number =>
    if number ≠ Errno.noSuchFile ∨ path = [] then .error number
    else
      let start := if path.head? = some slash then [] else t.working
      match t.walk start (pieces path).dropLast, (pieces path).getLast? with
      | .ok parent, some piece =>
        if piece = [] then .error Errno.isADirectory else .ok (parent ++ [piece])
      | .ok _, none => .error number
      | .error number, _ => .error number

def put (t : Tree) (place : Place) (node : Node) : Tree :=
  { t with entries := (place, node) :: t.entries.filter (·.1 != place) }

def content (t : Tree) (place : Place) : Bytes :=
  match t.find? place with
  | some (.file content) => content
  | _ => []

def program (t : Tree) (path : Bytes) : Except Int String :=
  match t.resolve path with
  | .error number => .error number
  | .ok (.program name) => .ok name
  | .ok _ => .error Errno.permissionDenied

end Tree

def place (path : String) : Place := (pieces (Text.Utf8.encode path)).filter (· ≠ [])

def programNames : List String := ["true", "false", "echo", "cat", "sh"]

def systemEntries : List (Place × Node) :=
  (place "/dev/null", .device) ::
    programNames.flatMap fun name =>
      [(place s!"/bin/{name}", .program name), (place s!"/usr/bin/{name}", .program name)]

def workingPlace : Place := place "/tmp/work"

def placeFor (path : Bytes) : Place :=
  let names := (pieces path).filter (· ≠ [])
  if path.head? = some slash then names else workingPlace ++ names

def Tree.ofFiles (files : List (Bytes × Node)) : Tree :=
  ⟨systemEntries ++ (workingPlace, .directory) ::
    files.map (fun (name, node) => (placeFor name, node)), workingPlace⟩

end VmBridge.Files
