import VmBridge.Text.Quoted
/-! The verbs for interfaces, TAP devices and bridges, with the words they are asked for by. -/
namespace VmBridge

inductive Verb where
  | ifUp (interface : String)
  | ifDown (interface : String)
  | ifAddress (interface address : String)
  | makeTap (tap user : String) (group : Option String)
  | deleteTap (tap : String)
  | addToBridge (bridge tap : String)
  | removeFromBridge (bridge tap : String)
  deriving DecidableEq, Repr, Inhabited

namespace Verb

inductive Kind where
  | ifUp
  | ifDown
  | ifAddress
  | makeTap
  | deleteTap
  | addToBridge
  | removeFromBridge
  deriving DecidableEq, Repr, Inhabited

namespace Kind

def all : List Kind :=
  [ifUp, ifDown, ifAddress, makeTap, deleteTap, addToBridge, removeFromBridge]

def word : Kind → String
  | ifUp => "ifup"
  | ifDown => "ifdown"
  | ifAddress => "ifaddress"
  | makeTap => "mktap"
  | deleteTap => "deltap"
  | addToBridge => "addtobr"
  | removeFromBridge => "delfrombr"

def ofWord? (s : String) : Option Kind := all.find? (·.word = s)

theorem ofWordWord (k : Kind) : ofWord? k.word = some k := by cases k <;> decide

def summary : Kind → String
  | ifUp => "Bring an interface up in promiscuous mode"
  | ifDown => "Bring an interface down"
  | ifAddress => "Assign an address to an interface"
  | makeTap => "Create a persistent TAP device owned by a user (and optionally a group)"
  | deleteTap => "Make a TAP device non-persistent so the kernel removes it"
  | addToBridge => "Attach a TAP device to a bridge"
  | removeFromBridge => "Detach a TAP device from a bridge"

def operands : Kind → List (String × Bool)
  | ifUp | ifDown => [("INTERFACE", true)]
  | ifAddress => [("INTERFACE", true), ("ADDRESS", true)]
  | makeTap => [("TAPNAME", true), ("USER", true), ("GROUP", false)]
  | deleteTap => [("TAPNAME", true)]
  | addToBridge | removeFromBridge => [("BRIDGE", true), ("TAP", true)]

def most (k : Kind) : Nat := k.operands.length

def fill? : Kind → List String → Option Verb
  | ifUp, [interface] => some (.ifUp interface)
  | ifDown, [interface] => some (.ifDown interface)
  | ifAddress, [interface, address] => some (.ifAddress interface address)
  | makeTap, [tap, user] => some (.makeTap tap user none)
  | makeTap, [tap, user, group] => some (.makeTap tap user (some group))
  | deleteTap, [tap] => some (.deleteTap tap)
  | addToBridge, [bridge, tap] => some (.addToBridge bridge tap)
  | removeFromBridge, [bridge, tap] => some (.removeFromBridge bridge tap)
  | _, _ => none

end Kind

def kind : Verb → Kind
  | ifUp _ => .ifUp
  | ifDown _ => .ifDown
  | ifAddress _ _ => .ifAddress
  | makeTap _ _ _ => .makeTap
  | deleteTap _ => .deleteTap
  | addToBridge _ _ => .addToBridge
  | removeFromBridge _ _ => .removeFromBridge

def operands : Verb → List String
  | ifUp interface => [interface]
  | ifDown interface => [interface]
  | ifAddress interface address => [interface, address]
  | makeTap tap user group => [tap, user] ++ group.toList
  | deleteTap tap => [tap]
  | addToBridge bridge tap => [bridge, tap]
  | removeFromBridge bridge tap => [bridge, tap]

theorem operandsFill (v : Verb) : v.kind.fill? v.operands = some v := by
  cases v with
  | makeTap tap user group => cases group <;> rfl
  | _ => rfl

def ofWords? : List String → Option Verb
  | [] => none
  | word :: operands => (Kind.ofWord? word).bind (·.fill? operands)

def words (v : Verb) : List String := v.kind.word :: v.operands

theorem ofWordsWords (v : Verb) : ofWords? v.words = some v := by
  simp [ofWords?, words, Kind.ofWordWord, operandsFill]

def fields (title : String) (parts : List (String × String)) : String :=
  title ++ " \x7b " ++ ", ".intercalate (parts.map fun (name, text) => name ++ ": " ++ text) ++
    " \x7d"

def quoted : Verb → String
  | ifUp interface => fields "IfUp" [("interface", Text.quoted interface)]
  | ifDown interface => fields "IfDown" [("interface", Text.quoted interface)]
  | ifAddress interface address =>
    fields "IfAddress" [("interface", Text.quoted interface), ("address", Text.quoted address)]
  | makeTap tap user group =>
    fields "MkTap" [("tapname", Text.quoted tap), ("user", Text.quoted user),
      ("group", Text.quotedOption group)]
  | deleteTap tap => fields "DelTap" [("tapname", Text.quoted tap)]
  | addToBridge bridge tap =>
    fields "AddToBr" [("bridge", Text.quoted bridge), ("tap", Text.quoted tap)]
  | removeFromBridge bridge tap =>
    fields "DelFromBr" [("bridge", Text.quoted bridge), ("tap", Text.quoted tap)]

end Verb
end VmBridge
