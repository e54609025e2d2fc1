import VmBridge.CommandLine.Word
import VmBridge.Verb.Basic
/-! The options in front of verbs and operands. Each argument asks for one thing or, as a
cluster, for several; what is asked is taken up from left to right, and the first thing that
ends the reading wins. A value in an argument of its own waits until it is known that no more
values follow: the next option or operand settles it. -/
namespace VmBridge.CommandLine
open Text (Bytes)

inductive Ask where
  | config (value : Bytes)
  | syslog
  | verbose
  | help
  | version
  | unknown
  deriving DecidableEq, Repr, Inhabited

inductive Ending where
  | help (verb : Option Verb.Kind)
  | version
  | bare
  | refused
  deriving DecidableEq, Repr, Inhabited

structure Options where
  config : Option Bytes := none
  syslog : Bool := false
  verbose : Nat := 0
  deriving DecidableEq, Repr, Inhabited

def mostVerbose : Nat := 255

namespace Options

def accept (o : Options) : Ask → Except Ending Options
  | .config value =>
    if o.config.isSome ∨ value = [] then .error .refused else .ok { o with config := some value }
  | .syslog => if o.syslog then .error .refused else .ok { o with syslog := true }
  | .verbose => .ok { o with verbose := min (o.verbose + 1) mostVerbose }
  | .help => .error (.help none)
  | .version => .error .version
  | .unknown => .error .refused

def acceptAll (o : Options) : List Ask → Except Ending Options
  | [] => .ok o
  | ask :: rest =>
    match o.accept ask with
    | .ok o' => o'.acceptAll rest
    | .error e => .error e

theorem acceptAllAppend (o : Options) (a b : List Ask) :
    o.acceptAll (a ++ b) = (o.acceptAll a).bind (·.acceptAll b) := by
  induction a generalizing o with
  | nil => rfl
  | cons ask a ih =>
    simp only [List.cons_append, acceptAll]
    cases o.accept ask with
    | ok o' => exact ih o'
    | error e => rfl

def settle (o : Options) : Option Bytes → Except Ending Options
  | none => .ok o
  | some value => o.accept (.config value)

end Options

structure Reading where
  asks : List Ask
  waiting : Option Bytes := none
  rest : List Bytes
  deriving DecidableEq, Repr

def separateValue : List Bytes → Reading
  | [] => { asks := [.unknown], rest := [] }
  | value :: rest =>
    if standsAsValue value then { asks := [], waiting := some value, rest }
    else { asks := [.unknown], rest := value :: rest }

def attachedValue (letters : Bytes) (rest : List Bytes) : Reading :=
  match letters with
  | [] => separateValue rest
  | b :: more => { asks := [.config (if b = equals then more else b :: more)], rest }

def letter (c : Char) : UInt8 := c.toNat.toUInt8

def Reading.asking (ask : Ask) (r : Reading) : Reading := { r with asks := ask :: r.asks }

def readCluster : Bytes → List Bytes → Reading
  | [], rest => { asks := [], rest }
  | b :: more, rest =>
    if b = letter 'c' then attachedValue more rest
    else if b = letter 'v' then (readCluster more rest).asking .verbose
    else if b = letter 'h' then (readCluster more rest).asking .help
    else if b = letter 'V' then (readCluster more rest).asking .version
    else { asks := [.unknown], rest }

def named (name : Bytes) (text : String) : Bool := name = Text.Utf8.encode text

def longAsk (withSyslog : Bool) (name : Bytes) : Ask :=
  if named name "verbose" then .verbose
  else if named name "help" then .help
  else if named name "version" then .version
  else if withSyslog && named name "syslog" then .syslog
  else .unknown

def readLong (withSyslog : Bool) (name : Bytes) (value : Option Bytes) (rest : List Bytes) :
    Reading :=
  match value with
  | some value => { asks := [if named name "config" then .config value else .unknown], rest }
  | none =>
    if named name "config" then separateValue rest
    else { asks := [longAsk withSyslog name], rest }

theorem separateValueLength (rest : List Bytes) :
    (separateValue rest).rest.length ≤ rest.length := by
  cases rest with
  | nil => simp [separateValue]
  | cons v rest =>
    simp only [separateValue]
    split <;> simp

theorem attachedValueLength (letters : Bytes) (rest : List Bytes) :
    (attachedValue letters rest).rest.length ≤ rest.length := by
  cases letters with
  | nil => exact separateValueLength rest
  | cons b more => exact Nat.le_refl _

theorem readClusterLength (letters : Bytes) (rest : List Bytes) :
    (readCluster letters rest).rest.length ≤ rest.length := by
  induction letters with
  | nil => simp [readCluster]
  | cons b more ih =>
    simp only [readCluster]
    repeat' split
    · exact attachedValueLength more rest
    · exact ih
    · exact ih
    · exact ih
    · exact Nat.le_refl _

theorem readLongLength (withSyslog : Bool) (name : Bytes) (value : Option Bytes)
    (rest : List Bytes) : (readLong withSyslog name value rest).rest.length ≤ rest.length := by
  cases value with
  | some value => exact Nat.le_refl _
  | none =>
    simp only [readLong]
    split
    · exact separateValueLength rest
    · exact Nat.le_refl _

namespace Options

def take (o : Options) (waiting : Option Bytes) (r : Reading) : Except Ending Options :=
  match o.settle waiting with
  | .ok o' => o'.acceptAll r.asks
  | .error e => .error e

end Options
end VmBridge.CommandLine
