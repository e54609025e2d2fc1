import VmBridge.Verb.LinuxHost
/-! The verb behind an operation. How many words a command has, and of three words the first, tell
the verb it was planned for, and its operands stand whole in places of their own. So an operation
is planned for one verb only, whatever the programs are called and whatever the operands hold. -/
namespace VmBridge

def Command.verb? (c : Command) : Option Verb :=
  match c.args with
  | [interface, address] => some (.ifAddress interface address)
  | [word, bridge, tap] =>
    some (if word = "addif" then .addToBridge bridge tap else .removeFromBridge bridge tap)
  | [_, _, interface, _] => some (.ifDown interface)
  | [_, _, interface, _, _, _] => some (.ifUp interface)
  | _ => none

def Operation.verb? : Operation → Option Verb
  | run command => command.verb?
  | makeTap request => request.user.map (.makeTap request.name · request.group)
  | deleteTap tap => some (.deleteTap tap)

def Linux.actingAs {κ σ : Type} (l : Linux κ σ) (uid : Owner.Id) : Linux κ σ :=
  { l with accounts := { l.accounts with effective := uid } }

namespace Verb

theorem planRead (tools : Tools) (verb : Verb) : (verb.plan tools).verb? = some verb := by
  cases verb <;> rfl

theorem planOnce {tools other : Tools} {v w : Verb} (same : v.plan tools = w.plan other) :
    v = w := by
  have read := congrArg Operation.verb? same
  rw [planRead, planRead] at read
  exact Option.some.inj read

theorem planNamesUser {tools : Tools} {verb : Verb} {r : TapRequest}
    (planned : verb.plan tools = .makeTap r) :
    ∃ user, r.user = some user ∧ verb = .makeTap r.name user r.group := by
  have read := planRead tools verb
  rw [planned] at read
  obtain ⟨user, named, same⟩ := Option.map_eq_some_iff.mp read
  exact ⟨user, named, same.symm⟩

theorem planUnattributed {κ σ : Type} (l : Linux κ σ) (uid : Owner.Id) (tools : Tools)
    (verb : Verb) :
    (l.actingAs uid).host.perform (verb.plan tools) = l.host.perform (verb.plan tools) := by
  cases verb <;> rfl

/-- Two verbs are never planned as one operation, not even where all programs are called the same.
A TAP device is planned for the user that the verb names, and what is planned is carried out alike
whoever the process runs as. -/
theorem planTellsVerb (tools : Tools) (verb : Verb) :
    (∀ (other : Tools) (w : Verb), verb.plan tools = w.plan other → verb = w) ∧
    (∀ r, verb.plan tools = .makeTap r →
      ∃ user, r.user = some user ∧ verb = .makeTap r.name user r.group) ∧
    ∀ (κ σ : Type) (l : Linux κ σ) (uid : Owner.Id),
      (l.actingAs uid).host.perform (verb.plan tools) = l.host.perform (verb.plan tools) :=
  ⟨fun _ _ => planOnce, fun _ => planNamesUser, fun _ _ l uid => planUnattributed l uid tools verb⟩

theorem addifAddressed :
    let tools : Tools := { ip := "net", ifconfig := "net", brctl := "net" }
    let address : Verb := .ifAddress "addif" "br0"
    let attach : Verb := .addToBridge "br0" ""
    let tap : Verb := .makeTap "link" "set" none
    let r : TapRequest := ⟨"link", some "set", none⟩
    address.plan tools ≠ attach.plan tools ∧ tap.plan tools = .makeTap r ∧
      ∃ user, r.user = some user ∧ tap = .makeTap r.name user r.group := by
  intro tools address attach tap r
  refine ⟨fun same => ?_, rfl, (planTellsVerb tools tap).2.1 r rfl⟩
  have one : address = attach := (planTellsVerb tools address).1 tools attach same
  exact absurd one (by decide)

end Verb
end VmBridge
