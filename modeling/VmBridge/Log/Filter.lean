import VmBridge.Log.Record
import VmBridge.Text.Pattern.Reader
/-! Filter directives: `level`, `target` or `target=level`, separated by commas, and after a
slash a pattern that messages must hold. The directive with the longest target that starts a
record's own target decides about the record. -/
namespace VmBridge.Log

structure Directive where
  target : Option String
  level : Level
  deriving DecidableEq, Repr, Inhabited

def levelOfAnyCase? (s : String) : Option Level := Level.ofWord? s.toLower

def Directive.read (piece : String) : Except String Directive :=
  match piece.splitOn "=" with
  | [word] =>
    match levelOfAnyCase? word with
    | some level => .ok ⟨none, level⟩
    | none => .ok ⟨some word, .trace⟩
  | [target, word] =>
    let word := Text.trim word
    if word = "" then .ok ⟨some target, .trace⟩
    else
      match levelOfAnyCase? word with
      | some level => .ok ⟨some target, level⟩
      | none => .error word
  | _ => .error piece

def insertDirective (ds : List Directive) (d : Directive) : List Directive :=
  if ds.any (·.target = d.target) then ds.map fun e => if e.target = d.target then d else e
  else ds ++ [d]

def Directive.covers (d : Directive) (target : String) : Bool :=
  match d.target with
  | none => true
  | some start => start.toList.isPrefixOf target.toList

def Directive.weight (d : Directive) : Nat :=
  match d.target with
  | none => 0
  | some start => start.utf8ByteSize

structure Filter where
  directives : List Directive
  needle : Option Text.Pattern := none

namespace Filter

def ofLevel (level : Level) : Filter := ⟨[⟨none, level⟩], none⟩

def warning (reason : String) : String := s!"warning: {reason}, ignoring it\n"

def complaint (part : String) : String := warning s!"invalid logging spec '{part}'"

def readNeedle : Option String → Option Text.Pattern × List String
  | none => (none, [])
  | some source =>
    match Text.Pattern.ofText source with
    | .ok p => (some p, [])
    | .error e => (none, [warning s!"invalid regex filter - {e.message source}"])

def overridden (f : Filter) (spec : String) : Filter × List String :=
  match spec.splitOn "/" with
  | directives :: more =>
    if more.length > 1 then
      (f, [warning s!"invalid logging spec '{spec}' (too many '/'s)"])
    else
      let pieces := ((directives.splitOn ",").map Text.trim).filter (· != "")
      let readings := pieces.map Directive.read
      let asked := readings.filterMap fun
        | .ok d => some d
        | .error _ => none
      let refused := readings.filterMap fun
        | .ok _ => none
        | .error part => some (complaint part)
      let (needle, misread) := readNeedle more.head?
      (⟨asked.foldl insertDirective f.directives, needle⟩, refused ++ misread)
  | [] => (f, [])

def deciding? (f : Filter) (target : String) : Option Directive :=
  (f.directives.filter (·.covers target)).foldl
    (fun best d =>
      match best with
      | some b => if b.weight ≤ d.weight then some d else some b
      | none => some d)
    none

def passes (f : Filter) (r : Record) : Bool :=
  match f.deciding? r.origin.target with
  | some d => decide (r.level ≤ d.level) && f.needle.all (·.isHeldBy r.message)
  | none => false

end Filter
end VmBridge.Log
