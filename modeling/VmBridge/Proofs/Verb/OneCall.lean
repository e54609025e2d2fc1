import VmBridge.CommandLine.Help
import VmBridge.Proofs.CommandLine.Operands
import VmBridge.Proofs.Notes
/-! One command line, one operation. A line that is not understood asks nothing of the host; any
other asks for the operation of its verb once, with each operand whole in a place of its own. -/
namespace VmBridge
open Text (Bytes)
variable {κ σ : Type}

def Host.watched (h : Host κ σ) : Host (κ ⊕ Operation × Except Fault Unit) σ where
  run c := (h.run c).noting fun answer => (.run c, answer)
  makeTap r := (h.makeTap r).noting fun answer => (.makeTap r, answer)
  deleteTap name := (h.deleteTap name).noting fun answer => (.deleteTap name, answer)

theorem performNoting (h : Host κ σ) (operation : Operation) :
    h.watched.perform operation =
      (h.perform operation).noting fun answer => (operation, answer) := by
  cases operation <;> rfl

namespace Verb

def Kind.entries : Kind → List (Option String)
  | ifUp => [some "link", some "set", none, some "up", some "promisc", some "on"]
  | ifDown => [some "link", some "set", none, some "down"]
  | ifAddress => [none, none]
  | addToBridge => [some "addif", none, none]
  | removeFromBridge => [some "delif", none, none]
  | makeTap | deleteTap => []

def Kind.program? (tools : Tools) : Kind → Option String
  | ifUp | ifDown => some tools.ip
  | ifAddress => some tools.ifconfig
  | addToBridge | removeFromBridge => some tools.brctl
  | makeTap | deleteTap => none

def filled : List (Option String) → List String → List String
  | [], _ => []
  | some word :: entries, operands => word :: filled entries operands
  | none :: entries, operand :: operands => operand :: filled entries operands
  | none :: entries, [] => filled entries []

inductive Carries (verb : Verb) (tools : Tools) : Operation → Prop where
  | command {program args} (known : verb.kind.program? tools = some program)
      (laid : args = filled verb.kind.entries verb.operands)
      (fixed : args.length = verb.kind.entries.length)
      (all : verb.operands.length = verb.kind.entries.count none) :
      Carries verb tools (.run ⟨program, args⟩)
  | makeTap {name user group} (kind : verb.kind = .makeTap)
      (all : verb.operands = name :: user :: group.toList) :
      Carries verb tools (.makeTap ⟨name, some user, group⟩)
  | deleteTap {name} (kind : verb.kind = .deleteTap) (all : verb.operands = [name]) :
      Carries verb tools (.deleteTap name)

theorem planCarries (tools : Tools) (verb : Verb) : Carries verb tools (verb.plan tools) := by
  cases verb with
  | makeTap tap user group => exact .makeTap rfl rfl
  | deleteTap tap => exact .deleteTap rfl rfl
  | ifUp | ifDown | ifAddress | addToBridge | removeFromBridge => exact .command rfl rfl rfl rfl

theorem dispatchEchoes (h : Host κ σ) (tools : Tools) (verb : Verb) :
    (verb.dispatch h.watched tools).Echoes (verb.dispatch h tools) := by
  have performed : (h.watched.perform (verb.plan tools)).Echoes (h.perform (verb.plan tools)) := by
    rw [performNoting]
    exact Act.echoNoting _ _
  refine Act.echoBind (Act.echoLog _ _ _) fun _ =>
    Act.echoBind (Act.echoAttempt performed) fun answer => ?_
  match answer with
  | .ok () => exact Act.echoPure 0
  | .error e =>
    exact Act.echoBind (Act.echoLog _ _ _) fun _ => Act.echoBind (Act.echoComplain _) fun _ =>
      Act.echoPure e.exitCode

def status : Except Fault Unit → Int
  | .ok () => 0
  | .error e => e.exitCode

def complaint : Except Fault Unit → List Bytes
  | .ok () => []
  | .error e => [Text.Utf8.encode ("qemu-bridge: " ++ e.message ++ "\n")]

structure Performs (h : Host κ σ) (operation : Operation) (s : σ)
    (watched : Ran (κ ⊕ Operation × Except Fault Unit) σ Int) (ran : Ran κ σ Int) : Prop where
  once : Trace.notes watched.trace = [(operation, ((h.perform operation).run s).result)]
  status : ran.result = .ok (status ((h.perform operation).run s).result)
  state : ran.state = ((h.perform operation).run s).state
  calls : Trace.calls ran.trace = Trace.calls ((h.perform operation).run s).trace
  output : Trace.stdout ran.trace = Trace.stdout ((h.perform operation).run s).trace
  complains : ran.trace.filterMap Effect.err? =
    ((h.perform operation).run s).trace.filterMap Effect.err? ++
      complaint ((h.perform operation).run s).result

theorem complaintText (message : String) :
    s!"{appName}: {message}\n" = "qemu-bridge: " ++ message ++ "\n" := by
  have tag : appName ++ ": " = "qemu-bridge: " := by decide
  rw [← tag]
  rfl

def announced (tools : Tools) (verb : Verb) : Log.Record :=
  ⟨.debug, .verbs, s!"{verb.quoted} -> {(verb.plan tools).quoted}"⟩

def epilogue (verb : Verb) : Except Fault Unit → List (Effect κ)
  | .ok () => []
  | .error e =>
    [.log ⟨.error, .verbs, s!"{verb.quoted} failed: {e.message}"⟩,
      .err (Text.Utf8.encode s!"{appName}: {e.message}\n")]

theorem dispatchRun (h : Host κ σ) (tools : Tools) (verb : Verb) {s s' : σ}
    {answer : Except Fault Unit} {trace : List (Effect κ)}
    (performed : (h.perform (verb.plan tools)).run s = ⟨answer, s', trace⟩) :
    (verb.dispatch h tools).run s = ⟨.ok (status answer), s',
      .log (announced tools verb) :: (trace ++ epilogue verb answer)⟩ := by
  have attempted : (h.perform (verb.plan tools)).attempt.run s = ⟨.ok answer, s', trace⟩ := by
    rw [Act.runAttempt, performed]
  have logged : (Act.log .debug .verbs s!"{verb.quoted} -> {(verb.plan tools).quoted}").run s =
      (⟨.ok (), s, [.log (announced tools verb)]⟩ : Ran κ σ Unit) := rfl
  unfold dispatch
  rw [Act.runOk logged, Act.runOk attempted]
  cases answer with
  | ok done => rfl
  | error e => rfl

theorem dispatchPerforms (h : Host κ σ) (tools : Tools) (verb : Verb) (s : σ) :
    Performs h (verb.plan tools) s ((verb.dispatch h.watched tools).run s)
      ((verb.dispatch h tools).run s) := by
  rcases performed : (h.perform (verb.plan tools)).run s with ⟨answer, s', trace⟩
  have noted : (h.watched.perform (verb.plan tools)).run s = ⟨answer, s',
      trace.map (Effect.mapCall .inl) ++ [.call (.inr (verb.plan tools, answer))]⟩ := by
    rw [performNoting, Act.runNoting, performed]
  rw [dispatchRun h tools verb performed, dispatchRun h.watched tools verb noted]
  constructor <;> rw [performed]
  · have quiet : Trace.notes
        (epilogue (κ := κ ⊕ Operation × Except Fault Unit) verb answer) = [] := by
      cases answer <;> rfl
    change Trace.notes (_ ++ _) = _
    rw [Trace.notesAppend, Trace.notesAppend, Trace.notesLifted, quiet]
    rfl
  · have quiet : Trace.calls (epilogue (κ := κ) verb answer) = [] := by cases answer <;> rfl
    change Trace.calls (trace ++ _) = _
    rw [Trace.callsAppend, quiet, List.append_nil]
  · have quiet : Trace.stdout (epilogue (κ := κ) verb answer) = [] := by cases answer <;> rfl
    change Trace.stdout (trace ++ _) = _
    rw [Trace.stdoutAppend, quiet, List.append_nil]
  · have told : (epilogue (κ := κ) verb answer).filterMap Effect.err? = complaint answer := by
      cases answer with
      | ok done => rfl
      | error e =>
        rw [complaint, ← complaintText]
        rfl
    change (trace ++ _).filterMap Effect.err? = _
    rw [List.filterMap_append, told]

end Verb

namespace CommandLine

def Ending.displays : Ending → Bool
  | help _ | version => true
  | bare | refused => false

structure Rejects (ending : Ending) (s : σ)
    (watched : Ran (κ ⊕ Operation × Except Fault Unit) σ Int) (ran : Ran κ σ Int) : Prop where
  untouched : Trace.calls watched.trace = [] ∧ Trace.calls ran.trace = [] ∧ ran.state = s
  status : ran.result = .ok (if ending.displays then 0 else 1)
  usage : ending.displays = false →
    Trace.stdout ran.trace = Text.Utf8.encode (
      "Usage: qemu-bridge ifup <interface> | ifdown <interface> | ifaddress <interface> <address> | " ++
      "mktap <tapname> <user> [group] | deltap <tapname> | addtobr <br> <tap> | delfrombr <br> <tap>" ++
      "\n")
  silent : ran.trace.filterMap Effect.err? = []

theorem runVerbRejects (h : Host κ σ) (tools : Tools) {argv : List Bytes} {ending : Ending}
    (s : σ) (refused : VerbCall.ofArgv argv = .error ending) :
    Rejects ending s ((runVerb h.watched tools argv).run s) ((runVerb h tools argv).run s) := by
  unfold runVerb
  rw [refused]
  cases ending with
  | help kind =>
    cases kind with
    | none => exact ⟨⟨rfl, rfl, rfl⟩, rfl, fun shown => (by cases shown), rfl⟩
    | some kind => exact ⟨⟨rfl, rfl, rfl⟩, rfl, fun shown => (by cases shown), rfl⟩
  | version => exact ⟨⟨rfl, rfl, rfl⟩, rfl, fun shown => (by cases shown), rfl⟩
  | bare => exact ⟨⟨rfl, rfl, rfl⟩, rfl, fun _ => List.append_nil _, rfl⟩
  | refused => exact ⟨⟨rfl, rfl, rfl⟩, rfl, fun _ => List.append_nil _, rfl⟩

theorem answerEchoes {ν : Type} (tool : Tool) (argv : List Bytes) (ending : Ending) :
    (ending.answer tool argv : Act (κ ⊕ ν) σ Int).Echoes (ending.answer tool argv) := by
  cases ending with
  | help kind =>
    cases kind with
    | none => exact Act.echoBind (Act.echoPrint _) fun _ => Act.echoPure 0
    | some kind => exact Act.echoBind (Act.echoPrint _) fun _ => Act.echoPure 0
  | version => exact Act.echoBind (Act.echoPrint _) fun _ => Act.echoPure 0
  | bare =>
    exact Act.echoBind (Act.echoLog _ _ _) fun _ => Act.echoBind (Act.echoPrint _) fun _ =>
      Act.echoPure 1
  | refused => exact Act.echoBind (Act.echoPrint _) fun _ => Act.echoPure 1

theorem runVerbEchoes (h : Host κ σ) (tools : Tools) (argv : List Bytes) :
    (runVerb h.watched tools argv).Echoes (runVerb h tools argv) := by
  unfold runVerb
  cases VerbCall.ofArgv argv with
  | error ending =>
    exact Act.echoBind (Act.echoBind (answerEchoes .verbs argv ending) fun _ => Act.echoPure _)
      fun status => match status with
        | .error status => Act.echoPure status
        | .ok call => Verb.dispatchEchoes h tools call.verb
  | ok call =>
    exact Act.echoBind (Act.echoPure _) fun status => match status with
      | .error status => Act.echoPure status
      | .ok call => Verb.dispatchEchoes h tools call.verb

theorem runVerbCalled (h : Host κ σ) (tools : Tools) {argv : List Bytes} {call : VerbCall} (s : σ)
    (read : VerbCall.ofArgv argv = .ok call) :
    (runVerb h tools argv).run s = (call.verb.dispatch h tools).run s := by
  unfold runVerb
  rw [read]
  rfl

/-- Watched or not, a command line is refused without a call or makes the one call of its verb,
with the operands that it was given. -/
theorem runVerbOneCall (h : Host κ σ) (tools : Tools) (argv : List Bytes) (s : σ) :
    let watched := (runVerb h.watched tools argv).run s
    let ran := (runVerb h tools argv).run s
    watched.unnoted = ran ∧
      (∀ ending, VerbCall.ofArgv argv = .error ending → Rejects ending s watched ran) ∧
      ∀ call, VerbCall.ofArgv argv = .ok call →
        Verb.Performs h (call.verb.plan tools) s watched ran ∧
          call.verb.Carries tools (call.verb.plan tools) ∧ Asked call.verb argv.tail := by
  refine ⟨runVerbEchoes h tools argv s, fun ending refused => runVerbRejects h tools s refused,
    fun call read => ⟨?_, Verb.planCarries tools call.verb, readVerbCallAsked read⟩⟩
  rw [runVerbCalled h tools s read, runVerbCalled h.watched tools s read]
  exact Verb.dispatchPerforms h tools call.verb s

end CommandLine
end VmBridge
