import VmBridge.CommandLine.Options
/-! Reading the arguments of the binding tool: two or three operands, with options before or
after them. An option between operands parts them into groups, and each group must have two
or three; `--` parts nothing. -/
namespace VmBridge.CommandLine
open Text (Bytes)

structure BindCall where
  options : Options
  operands : List String
  deriving DecidableEq, Repr, Inhabited

structure Gathered where
  options : Options := {}
  operands : List String := []
  group : List String := []
  deriving DecidableEq, Repr, Inhabited

namespace Gathered

def closed (g : Gathered) : Except Ending Gathered :=
  if g.group = [] then .ok g
  else if 2 ≤ g.group.length ∧ g.group.length ≤ 3 then .ok ⟨g.options, g.operands ++ g.group, []⟩
  else .error .refused

def finished (g : Gathered) : Except Ending BindCall :=
  match g.closed with
  | .ok g' => if g'.operands = [] then .error .refused else .ok ⟨g'.options, g'.operands⟩
  | .error e => .error e

def taking (g : Gathered) (bytes : Bytes) : Except Ending Gathered :=
  match Text.Utf8.decode? bytes with
  | some operand => .ok { g with group := g.group ++ [operand] }
  | none => .error .refused

def asked (g : Gathered) (r : Reading) : Except Ending Gathered :=
  match g.closed with
  | .ok g' =>
    match g'.options.take none r with
    | .ok o => (o.settle r.waiting).map fun o' => { g' with options := o' }
    | .error e => .error e
  | .error e => .error e

def readPlainly (g : Gathered) : List Bytes → Except Ending BindCall
  | [] => g.finished
  | bytes :: rest =>
    match g.taking bytes with
    | .ok g' => g'.readPlainly rest
    | .error e => .error e

def read (g : Gathered) : List Bytes → Except Ending BindCall
  | [] => g.finished
  | arg :: rest =>
    match Word.read arg with
    | .plain bytes =>
      match g.taking bytes with
      | .ok g' => g'.read rest
      | .error e => .error e
    | .escape => g.readPlainly rest
    | .long name value =>
      match g.asked (readLong false name value rest) with
      | .ok g' => g'.read (readLong false name value rest).rest
      | .error e => .error e
    | .cluster letters =>
      match g.asked (readCluster letters rest) with
      | .ok g' => g'.read (readCluster letters rest).rest
      | .error e => .error e
termination_by args => args.length
decreasing_by
  · simp
  · have := readLongLength false name value rest
    simp only [List.length_cons]
    omega
  · have := readClusterLength letters rest
    simp only [List.length_cons]
    omega

end Gathered

def BindCall.ofArgv (argv : List Bytes) : Except Ending BindCall :=
  ({} : Gathered).read argv.tail

end VmBridge.CommandLine
