/-! The settings of a shell, and the words that change them. A setting is known by its name,
and most have a letter too. -/
namespace VmBridge.Programs.Shell

structure Setting where
  name : String
  letter : Option Char := none
  deriving DecidableEq, Repr

def settings : List Setting := [
  ⟨"errexit", 'e'⟩, ⟨"noglob", 'f'⟩, ⟨"ignoreeof", 'I'⟩, ⟨"interactive", 'i'⟩, ⟨"monitor", 'm'⟩,
  ⟨"noexec", 'n'⟩, ⟨"stdin", 's'⟩, ⟨"xtrace", 'x'⟩, ⟨"verbose", 'v'⟩, ⟨"vi", 'V'⟩, ⟨"emacs", 'E'⟩,
  ⟨"noclobber", 'C'⟩, ⟨"allexport", 'a'⟩, ⟨"notify", 'b'⟩, ⟨"nounset", 'u'⟩, ⟨"privileged", 'p'⟩,
  ⟨"nolog", none⟩, ⟨"debug", none⟩]

structure Flags where
  on : List String := []
  deriving DecidableEq, Repr

namespace Flags

def has (f : Flags) (name : String) : Bool := f.on.contains name

def put (f : Flags) (name : String) (on : Bool) : Flags :=
  let others := f.on.filter (· ≠ name)
  ⟨if on then name :: others else others⟩

def stops (f : Flags) : Bool := f.has "errexit"

def demands (f : Flags) : Bool := f.has "nounset"

def traces (f : Flags) : Bool := f.has "xtrace"

def idle (f : Flags) : Bool := f.has "noexec"

def spares (f : Flags) : Bool := f.has "noclobber"

def exports (f : Flags) : Bool := f.has "allexport"

def letters (f : Flags) : String :=
  String.ofList (settings.reverse.filterMap fun x => if f.has x.name then x.letter else none)

def table (f : Flags) : String :=
  let row (x : Setting) : String :=
    x.name ++ "".pushn ' ' (16 - x.name.length) ++
      (if f.has x.name then "on" else "off") ++ "\n"
  "Current option settings\n" ++ String.join (settings.map row)

def commands (f : Flags) : String :=
  String.join <| settings.map fun x =>
    let sign := if f.has x.name then "-" else "+"
    s!"set {sign}o {x.name}\n"

def turn (f : Flags) (x : Setting) (on : Bool) : Flags :=
  let f := f.put x.name on
  if on ∧ x.name = "vi" then f.put "emacs" false
  else if on ∧ x.name = "emacs" then f.put "vi" false
  else f

end Flags

structure Options where
  flags : Flags := {}
  printed : String := ""
  isText : Bool := false
  operands : List String := []
  replaces : Bool := false
  deriving Repr

namespace Options

def listed (o : Options) (on : Bool) : Options :=
  { o with printed := o.printed ++ if on then o.flags.table else o.flags.commands }

def named (o : Options) (on : Bool) (name : String) : Except String Options :=
  match settings.find? (·.name = name) with
  | some x => .ok { o with flags := o.flags.put x.name on }
  | none => .error s!"Illegal option -o {name}"

def lettered (o : Options) (on : Bool) (letter : Char) : Except String Options :=
  match settings.find? (·.letter = some letter) with
  | some x => .ok { o with flags := o.flags.turn x on }
  | none => .error s!"Illegal option -{letter}"

abbrev Waiting := Option (Bool × List Char)

def readLetters (atStart last on : Bool) : List Char → Options → Except String (Options × Waiting)
  | [], o => .ok (o, none)
  | c :: cs, o =>
    if c = 'o' then
      if last then readLetters atStart last on cs (o.listed on) else .ok (o, some (on, cs))
    else if atStart ∧ c = 'c' then readLetters atStart last on cs { o with isText := true }
    else if atStart ∧ c = 'l' then readLetters atStart last on cs o
    else do
      let o ← o.lettered on c
      readLetters atStart last on cs o

def readWords (atStart : Bool) : List String → Waiting → Options → Except String Options
  | [], none, o => .ok o
  | [], some (on, cs), o => do
    let (o, _) ← readLetters atStart true on cs (o.listed on)
    .ok o
  | word :: rest, some (on, cs), o => do
    let o ← o.named on word
    let (o, waiting) ← readLetters atStart false on cs o
    readWords atStart rest waiting o
  | word :: rest, none, o =>
    match word.toList with
    | ['-'] =>
      let flags := if atStart then o.flags else (o.flags.put "xtrace" false).put "verbose" false
      .ok { o with flags, operands := rest }
    | ['-', '-'] => .ok { o with operands := rest, replaces := true }
    | '-' :: cs => do
      let (o, waiting) ← readLetters atStart false true cs o
      readWords atStart rest waiting o
    | '+' :: cs => do
      let (o, waiting) ← readLetters atStart false false cs o
      readWords atStart rest waiting o
    | _ => .ok { o with operands := word :: rest }

end Options
end VmBridge.Programs.Shell
