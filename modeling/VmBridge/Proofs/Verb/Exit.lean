import VmBridge.Proofs.CommandLine.Rendering
import VmBridge.Proofs.Tap.Creation
import VmBridge.Proofs.Verb.OneCall
/-! How a command line ends on a Linux host. The status is 0 or 1; it is 0 exactly if the one
command came to a plain end or the driver granted the whole sequence of the verb, and a 1 stands
beside one complaint, one record of an error and no output. No run both starts a command and asks
the driver. -/
namespace VmBridge
open Text (Bytes)
variable {κ σ α β : Type}

def Effect.Mild : Effect κ → Prop
  | log r => r.level ≠ .error
  | call _ | out _ | err _ => True

namespace Trace

def errors (t : List (Effect κ)) : List Log.Record := (logs t).filter (·.level = .error)
@[simp] theorem errorsAppend (a b : List (Effect κ)) : errors (a ++ b) = errors a ++ errors b := by
  simp [errors]

def commands (t : List (Effect HostCall)) : List Command := (calls t).filterMap HostCall.command?
def requests (t : List (Effect HostCall)) : List Tap.Call := (calls t).filterMap HostCall.device?

theorem errorsMild {t : List (Effect κ)} (mild : ∀ e ∈ t, e.Mild) : errors t = [] := by
  unfold errors logs
  rw [List.filter_eq_nil_iff]
  intro r logged
  obtain ⟨e, made, shown⟩ := List.mem_filterMap.mp logged
  have level := mild e made
  cases e with
  | log r' =>
    cases shown
    simpa [Effect.Mild] using level
  | call | out | err => cases shown

end Trace

namespace Command

structure Runner.Starts (runner : Runner κ σ) (recorded : Command → κ) : Prop where
  once : ∀ c s, Trace.unlogged ((runner c).run s).trace = [.call (recorded c)]
  mild : ∀ c, Act.Shows Effect.Mild (runner c)
  faults : ∀ c, Act.Refuses (fun _ e => ∃ cause, e = .spawn c.line cause) (runner c)

theorem spawnerYields (p : Spawner κ σ) (c : Command) (s : σ) :
    Act.Yields Effect.unlogged? (p.runner c) s [.call (p.recorded c)]
      ((p.spawn c s).1.mapError (.spawn c.line)) (p.spawn c s).2 := by
  refine Act.yieldsOk (Act.yieldsQuiet rfl s) (Act.yieldsOk
    (Act.yieldsEmit (by rfl) s) (Act.yieldsOk (Act.yieldsTake _ s) ?_))
  cases (p.spawn c s).1 with
  | ok output => exact Act.yieldsPure output _
  | error cause => exact Act.yieldsFail _ _

theorem spawnerStarts (p : Spawner κ σ) : p.runner.Starts p.recorded where
  once c s := (spawnerYields p c s).seen
  mild c := by
    refine Act.showsBind (Act.showsEmit (by simp [Effect.Mild])) fun _ =>
      Act.showsBind (Act.showsEmit trivial) fun _ => Act.showsBind (Act.showsTake _) fun answer => ?_
    cases answer with
    | ok output => exact Act.showsPure output
    | error cause => exact Act.showsFail _
  faults c := by
    refine Act.refusesThen (Act.refusesEmit _) fun _ => Act.refusesThen (Act.refusesEmit _)
      fun _ => Act.refusesThen (Act.refusesTake _) fun answer => ?_
    cases answer with
    | ok output => exact Act.refusesPure output
    | error cause => exact Act.refusesFail ⟨cause, rfl⟩

end Command

namespace Act

structure Modest (x : Act κ σ α) : Prop where
  mild : Shows Effect.Mild x
  exits : Refuses (fun _ e => e.exitCode = 1) x

variable {x : Act κ σ α} {f : α → Act κ σ β}

theorem modestPure (a : α) : Modest (pure a : Act κ σ α) := ⟨showsPure a, refusesPure a⟩

theorem modestFail {e : Fault} (code : e.exitCode = 1) : Modest (fail e : Act κ σ α) :=
  ⟨showsFail e, refusesFail code⟩

theorem modestOfExcept {result : Except Fault α} (coded : ∀ e, result = .error e → e.exitCode = 1) :
    Modest (ofExcept result : Act κ σ α) := by
  cases result with
  | error e => exact modestFail (coded e rfl)
  | ok a => exact modestPure a

theorem modestEmit {e : Effect κ} (mild : e.Mild) : Modest (emit e : Act κ σ Unit) :=
  ⟨showsEmit mild, refusesEmit e⟩

theorem modestLog {level : Log.Level} (low : level ≠ .error) (origin : Log.Origin)
    (message : String) : Modest (log level origin message : Act κ σ Unit) := modestEmit low

theorem modestTake (g : σ → α × σ) : Modest (take g : Act κ σ α) := ⟨showsTake g, refusesTake g⟩

theorem modestBindGives {Q : α → Prop} (h : Modest x) (gives : Gives Q x)
    (next : ∀ a, Q a → Modest (f a)) : Modest (x >>= f) :=
  ⟨showsBindGives h.mild gives fun a given => (next a given).mild,
    refusesBindGives (fun _ _ _ => id) h.exits gives fun a given => (next a given).exits⟩

theorem modestBind (h : Modest x) (next : ∀ a, Modest (f a)) : Modest (x >>= f) :=
  modestBindGives (Q := fun _ => True) h (fun _ _ _ => trivial) fun a _ => next a

end Act

namespace Owner
open Act

theorem searchModest (title : String) (directory : Directory) (name : String) :
    Modest (search title directory name : Act κ σ (Option Id)) := by
  unfold search
  split
  · exact modestPure none
  · split
    · exact modestPure _
    · exact modestPure none
    · exact modestBind (modestLog (by decide) _ _) fun _ => modestPure none

theorem idOfModest (title : String) (directory : Directory) (name : String) :
    Modest (idOf (search title directory) name : Act κ σ (Option Id)) := by
  refine modestBind (searchModest title directory name) fun answer => ?_
  cases answer with
  | some id => exact modestPure _
  | none => exact modestPure _

theorem ownerModest (a : Accounts) (name : Option String) :
    Modest (a.owner name : Act κ σ Id) := by
  cases name with
  | none => exact modestPure a.effective
  | some name =>
    refine modestBind (idOfModest "user" a.users name) fun answer => ?_
    cases answer with
    | some id => exact modestPure id
    | none => exact modestFail rfl

theorem groupModest (a : Accounts) (name : Option String) :
    Modest (a.group? name : Act κ σ (Option Id)) := by
  cases name with
  | none => exact modestPure none
  | some name =>
    refine modestBind (modestBind (idOfModest "group" a.groups name) fun answer => ?_)
      fun id => modestPure (some id)
    cases answer with
    | some id => exact modestPure id
    | none => exact modestFail rfl

end Owner

namespace Tap
open Act

theorem nameRefused {name : String} {e : Fault} (unnamed : nameBytes name = .error e) :
    ∃ reason, e = .interfaceName name reason := by
  simp only [nameBytes] at unnamed
  repeat' split at unnamed
  all_goals cases unnamed
  all_goals exact ⟨_, rfl⟩

variable (d : Driver κ σ)

theorem applyModest (c : Control) (step : TapStep) (request : Call) :
    Modest (c.apply d step request) := by
  refine modestBind (modestEmit trivial) fun _ => modestBind (modestTake _) fun errno => ?_
  split
  · exact modestBind (modestLog (by decide) _ _) fun _ => modestPure _
  · exact modestBind (modestLog (by decide) _ _) fun _ => modestPure _

theorem applyCoded (c : Control) (step : TapStep) (request : Call) :
    Gives (fun outcome => ∀ e, outcome.1 = .error e → e.exitCode = 1)
      (c.apply d step request) := by
  refine givesBind fun _ => givesBind fun errno => ?_
  split
  · exact givesBind fun _ => givesPure fun e same => by cases same
  · exact givesBind fun _ => givesPure fun e same => by cases same; rfl

theorem grantedModest {f : Control → Act κ σ α} (c : Control) (step : TapStep) (request : Call)
    (next : ∀ c, Modest (f c)) : Modest (do
      let (result, c') ← c.apply d step request
      Act.ofExcept result
      f c') :=
  modestBindGives (applyModest d c step request) (applyCoded d c step request)
    fun (_, c') coded => modestBind (modestOfExcept coded) fun _ => next c'

theorem attachModest (device : Bytes) (name : String) :
    Modest (Control.attach d device name) := by
  have coded : ∀ e, nameBytes name = .error e → e.exitCode = 1 := by
    intro e unnamed
    obtain ⟨reason, rfl⟩ := nameRefused unnamed
    rfl
  refine modestBind (modestOfExcept coded) fun bytes => modestBind (modestEmit trivial) fun _ => ?_
  split
  · exact modestFail rfl
  · exact grantedModest d _ _ _ modestPure

theorem setAllModest (settings : List Setting) (c : Control) : Modest (c.setAll d settings) := by
  induction settings generalizing c with
  | nil => exact modestPure c
  | cons x rest ih => exact grantedModest d c x.step x.call ih

end Tap
namespace Linux

structure Tells (l : Linux HostCall σ) : Prop where
  device : l.driver.recorded = .device
  command : l.runner.Starts .command

def Done (l : Linux κ σ) (s : σ) : Operation → Prop
  | .run c => ∃ output, ((l.runner c).run s).result = .ok output ∧ output.status.raw = 0
  | .makeTap r => ∃ p s', l.settle r = .ok p ∧ Tap.Granted l.driver s (p.steps.map Prod.snd) s'
  | .deleteTap name => ∃ bytes s', Tap.nameBytes name = .ok bytes ∧
    l.driver.openDevice l.controlDevice = none ∧
    Tap.Granted l.driver s [.attachTo bytes, .persist false] s'

def Asks : Operation → List HostCall → Prop
  | .run c, calls => calls = [.command c]
  | .makeTap _, calls | .deleteTap _, calls => ∃ accesses : List Tap.Access, calls = accesses.map .device

structure Carried (l : Linux HostCall σ) (s : σ) (operation : Operation)
    (ran : Ran HostCall σ Unit) : Prop where
  exits : ∀ e, ran.result = .error e → e.exitCode = 1
  mild : ∀ e ∈ ran.trace, e.Mild
  asks : Asks operation (Trace.calls ran.trace)
  silent : ∀ e, ran.result = .error e →
    ran.trace.filterMap Effect.out? = [] ∧ ran.trace.filterMap Effect.err? = []
  done : ran.result = .ok () ↔ l.Done s operation

theorem runModest {l : Linux HostCall σ} (tells : l.Tells) (c : Command) :
    Act.Modest (l.run c) := by
  have started : Act.Modest (l.runner c) := by
    refine ⟨tells.command.mild c, Act.refusesMono (tells.command.faults c) ?_⟩
    rintro _ e ⟨cause, rfl⟩
    rfl
  refine Act.modestBind (Act.modestBind started fun output => ?_) fun output =>
    Act.modestBind (Act.modestEmit trivial) fun _ => Act.modestEmit trivial
  split
  · exact Act.modestPure output
  · exact Act.modestBind (Act.modestLog (by decide) _ _) fun _ => Act.modestFail rfl

theorem makeTapModest (l : Linux κ σ) (r : TapRequest) : Act.Modest (l.makeTap r) :=
  Act.modestBind (Owner.ownerModest l.accounts r.user) fun _ =>
    Act.modestBind (Owner.groupModest l.accounts r.group) fun _ =>
      Act.modestBind (Act.modestBind (Tap.attachModest l.driver l.controlDevice r.name) fun c =>
        Act.modestBind (Tap.setAllModest l.driver _ c) fun _ => Act.modestPure ()) fun _ =>
          Act.modestEmit trivial

theorem deleteTapModest (l : Linux κ σ) (name : String) : Act.Modest (l.deleteTap name) :=
  Act.modestBind (Act.modestBind (Tap.attachModest l.driver l.controlDevice name) fun c =>
    Act.modestBind (Tap.setAllModest l.driver _ c) fun _ => Act.modestPure ()) fun _ =>
      Act.modestEmit trivial

def checked (c : Command) : Except Fault Command.Output → Except Fault Command.Output
  | .error e => .error e
  | .ok output =>
    if output.status.isSuccess then .ok output
    else .error (.commandFailed c.line output.status.text (Command.complaint output.stderr))

def echoed : Except Fault Command.Output → List (Effect κ)
  | .ok output => [.out output.stdout, .err output.stderr]
  | .error _ => []

theorem checkedYields (runner : Command.Runner κ σ) (c : Command) (s : σ) :
    Act.Yields Effect.unlogged? (Command.runChecked runner c) s
      (Trace.unlogged ((runner c).run s).trace) (checked c ((runner c).run s).result)
      ((runner c).run s).state := by
  have first : Act.Yields Effect.unlogged? (runner c) s (Trace.unlogged ((runner c).run s).trace)
      ((runner c).run s).result ((runner c).run s).state := Act.yieldsRun (runner c) s
  cases answer : ((runner c).run s).result with
  | error e =>
    rw [answer] at first
    exact Act.yieldsError first
  | ok output =>
    rw [answer] at first
    rw [← List.append_nil (Trace.unlogged _)]
    refine Act.yieldsOk first ?_
    simp only [checked]
    split
    · exact Act.yieldsPure output _
    · exact Act.yieldsOk (Act.yieldsQuiet rfl _) (Act.yieldsFail _ _)

theorem runYields {l : Linux HostCall σ} (tells : l.Tells) (c : Command) (s : σ) :
    Act.Yields Effect.unlogged? (l.run c) s
      ([HostCall.command c].map Effect.call ++ echoed (checked c ((l.runner c).run s).result))
      ((checked c ((l.runner c).run s).result).map fun _ => ()) ((l.runner c).run s).state := by
  have first := checkedYields l.runner c s
  rw [tells.command.once c s] at first
  cases answer : checked c ((l.runner c).run s).result with
  | error e =>
    rw [answer] at first
    exact Act.yieldsError first
  | ok output =>
    rw [answer] at first
    exact Act.yieldsOk first (Act.yieldsOk (Act.yieldsEmit (by rfl) _)
      (Act.yieldsEmit (by rfl) _))

theorem checkedDone (l : Linux κ σ) (c : Command) (s : σ) :
    (checked c ((l.runner c).run s).result).map (fun _ => ()) = .ok () ↔ l.Done s (.run c) := by
  simp only [Done]
  cases ((l.runner c).run s).result with
  | error e => exact ⟨fun same => (by cases same), fun ⟨_, same, _⟩ => (by cases same)⟩
  | ok output =>
    simp only [checked, Command.WaitStatus.isSuccess, decide_eq_true_eq]
    split
    · rename_i success
      exact ⟨fun _ => ⟨output, rfl, success⟩, fun _ => rfl⟩
    · rename_i failure
      refine ⟨fun same => (by cases same), ?_⟩
      rintro ⟨_, same, success⟩
      cases same
      exact absurd success failure

section Carried
variable {l : Linux HostCall σ} {s s' : σ} {operation : Operation} {x : Act HostCall σ Unit}

theorem carriedOf {result : Except Fault α} {calls : List HostCall}
    {told : List (Effect HostCall)} (modest : Act.Modest x)
    (run : Act.Yields Effect.unlogged? x s (calls.map Effect.call ++ told)
      (result.map fun _ => ()) s')
    (uncalled : Trace.calls told = []) (silent : ∀ e, result = .error e → told = [])
    (asks : Asks operation calls) (done : result.map (fun _ => ()) = .ok () ↔ l.Done s operation) :
    Carried l s operation (x.run s) := by
  have shown : ∀ {τ : Type} {view : Effect HostCall → Option τ}, (∀ r, view (.log r) = none) →
      (∀ c, view (.call c) = none) →
      (x.run s).trace.filterMap view = told.filterMap view := fun quiet blind => by
    rw [← Trace.viewUnlogged quiet, Trace.unlogged, run.seen, List.filterMap_append]
    simp [List.filterMap_map, blind]
  have same : Trace.calls (calls.map Effect.call) = calls := by
    simp [Trace.calls, List.filterMap_map, Function.comp_def, Effect.call?]
  refine ⟨fun e => modest.exits s e, modest.mild s, ?_, fun e failed => ?_, ?_⟩
  · rw [← Trace.callsUnlogged, Trace.unlogged, run.seen, Trace.callsAppend, same, uncalled,
      List.append_nil]
    exact asks
  · have stopped : told = [] := by
      rw [run.result] at failed
      cases result with
      | error e => exact silent e rfl
      | ok a => cases failed
    rw [shown (fun _ => rfl) fun _ => rfl, shown (fun _ => rfl) fun _ => rfl, stopped]
    exact ⟨rfl, rfl⟩
  · rw [run.result]
    exact done

theorem carriedRefused {e : Fault} {calls : List HostCall} (modest : Act.Modest x)
    (run : Act.Yields Effect.unlogged? x s (calls.map Effect.call) (.error e) s')
    (asks : Asks operation calls) (undone : ¬ l.Done s operation) :
    Carried l s operation (x.run s) := by
  have whole : Act.Yields Effect.unlogged? x s (calls.map Effect.call ++ [])
      ((.error e : Except Fault Unit).map fun _ => ()) s' := by
    rw [List.append_nil]
    exact run
  exact carriedOf modest whole rfl (fun _ _ => rfl) asks
    ⟨fun same => (by cases same), fun done => absurd done undone⟩

theorem runCarried (tells : l.Tells) (c : Command) (s : σ) :
    Carried l s (.run c) ((l.run c).run s) := by
  refine carriedOf (runModest tells c) (runYields tells c s) ?_ (fun e failed => ?_) rfl
    (l.checkedDone c s)
  · cases checked c ((l.runner c).run s).result <;> rfl
  · rw [failed]
    rfl

theorem openedDevice (tells : l.Tells) :
    [l.driver.opened l.controlDevice] =
      ([.opening l.controlDevice].map HostCall.device).map Effect.call := by
  rw [Tap.Driver.opened, tells.device]
  rfl

theorem openingDevice (tells : l.Tells) (r : TapRequest) : ∃ accesses : List Tap.Access,
    l.opening r = (accesses.map HostCall.device).map Effect.call := by
  unfold opening
  cases l.planned r with
  | error e => exact ⟨[], rfl⟩
  | ok p => exact ⟨_, openedDevice tells⟩

theorem askedDevice (tells : l.Tells) (calls : List Tap.Call) :
    l.driver.opened l.controlDevice :: l.driver.asked calls =
      ((.opening l.controlDevice :: calls.map Tap.Access.request).map HostCall.device).map
        Effect.call := by
  simp only [Tap.Driver.asked, Tap.Driver.opened, tells.device, List.map_cons, List.map_map]
  rfl

theorem saidSilent {line : String} {result : Except Fault (List TapStep)} {e : Fault}
    (failed : result = .error e) : (said line result : List (Effect κ)) = [] := by
  rw [failed]
  rfl

theorem makeTapCarried (tells : l.Tells) (r : TapRequest) (s : σ) :
    Carried l s (.makeTap r) ((l.makeTap r).run s) := by
  cases settled : l.settle r with
  | error e =>
    have run := l.makeTapUnsettled r s settled
    obtain ⟨accesses, opening⟩ := openingDevice tells r
    rw [opening] at run
    refine carriedRefused (l.makeTapModest r) run ⟨accesses, rfl⟩ ?_
    rintro ⟨p, s', same, -⟩
    rw [settled] at same
    cases same
  | ok p =>
    obtain ⟨calls, result, s', run, stepped⟩ := l.makeTapSettled r p s settled
    rw [← List.cons_append, askedDevice tells] at run
    refine carriedOf (l.makeTapModest r) run (saidUncalled _ result) (fun _ => saidSilent)
      ⟨_, rfl⟩ ((Tap.steppedSucceeds stepped).trans
        ⟨fun ⟨s', all⟩ => ⟨p, s', settled, all⟩, ?_⟩)
    rintro ⟨p', s', same, all⟩
    rw [settled] at same
    cases same
    exact ⟨s', all⟩

theorem deleteTapCarried (tells : l.Tells) (name : String) (s : σ) :
    Carried l s (.deleteTap name) ((l.deleteTap name).run s) := by
  -- Without a name or without the device the driver is not asked.
  have stopped (accesses : List Tap.Access) {e : Fault} (run : Act.Yields Effect.unlogged?
        (Tap.Control.attach l.driver l.controlDevice name) s
        ((accesses.map HostCall.device).map Effect.call) (.error e) s)
      (undone : ¬ l.Done s (.deleteTap name)) :
      Carried l s (.deleteTap name) ((l.deleteTap name).run s) :=
    carriedRefused (l.deleteTapModest name) (Act.yieldsError (Act.yieldsError run))
      ⟨accesses, rfl⟩ undone
  cases named : Tap.nameBytes name with
  | error e =>
    have run := Tap.attachUnnamed l.driver l.controlDevice s named
    refine stopped [] run ?_
    rintro ⟨bytes, s', same, -⟩
    rw [named] at same
    cases same
  | ok bytes =>
    cases opened : l.driver.openDevice l.controlDevice with
    | some cause =>
      have run := Tap.attachUnopened l.driver l.controlDevice s named opened
      rw [openedDevice tells] at run
      refine stopped _ run ?_
      rintro ⟨bytes, s', -, same, -⟩
      rw [opened] at same
      cases same
    | none =>
      obtain ⟨calls, result, s', run, stepped⟩ :=
        Tap.attachedStepped l.driver l.controlDevice s [.persist false] named opened
      have whole := saidYields s!"Set '{name}' nonpersistent\n" run
      rw [askedDevice tells] at whole
      refine carriedOf (l.deleteTapModest name) whole (saidUncalled _ result)
        (fun _ => saidSilent) ⟨_, rfl⟩ ((Tap.steppedSucceeds stepped).trans
          ⟨fun ⟨s', all⟩ => ⟨bytes, s', named, opened, all⟩, ?_⟩)
      rintro ⟨bytes', s', same, -, all⟩
      rw [named] at same
      cases same
      exact ⟨s', all⟩

theorem performCarried (tells : l.Tells) (operation : Operation) (s : σ) :
    Carried l s operation ((l.host.perform operation).run s) := by
  cases operation with
  | run c => exact runCarried tells c s
  | makeTap r => exact makeTapCarried tells r s
  | deleteTap name => exact deleteTapCarried tells name s

end Carried

theorem answeringTells (accounts : Owner.Accounts) (controlDevice : Bytes)
    (openDevice : Bytes → Option IoFault) (request : Tap.Call → σ → Int × σ)
    (spawn : Command → σ → Except IoFault Command.Output × σ) :
    (answering accounts controlDevice openDevice request spawn).Tells :=
  ⟨rfl, Command.spawnerStarts ⟨HostCall.command, spawn⟩⟩

theorem answeringDone (accounts : Owner.Accounts) (controlDevice : Bytes)
    (openDevice : Bytes → Option IoFault) (request : Tap.Call → σ → Int × σ)
    (spawn : Command → σ → Except IoFault Command.Output × σ) (c : Command) (s : σ) :
    (answering accounts controlDevice openDevice request spawn).Done s (.run c) ↔
      ∃ output, (spawn c s).1 = .ok output ∧ output.status.raw = 0 := by
  have result : (((Command.Spawner.mk HostCall.command spawn).runner c).run s).result =
      (spawn c s).1.mapError (.spawn c.line) := (Command.spawnerYields _ c s).result
  simp only [Done, answering, result]
  cases (spawn c s).1 with
  | ok output =>
    constructor <;> rintro ⟨_, same, success⟩ <;> cases same <;> exact ⟨output, rfl, success⟩
  | error cause => constructor <;> rintro ⟨_, same, _⟩ <;> cases same

end Linux

namespace Verb
open Linux (Asks)

theorem accessesUnstarted (accesses : List Tap.Access) :
    (accesses.map HostCall.device).filterMap HostCall.command? = [] := by
  simp [List.filterMap_map, Function.comp_def, HostCall.command?]

theorem asksApart {operation : Operation} {calls : List HostCall} (asks : Asks operation calls) :
    (calls.filterMap HostCall.command?).length ≤ 1 ∧
      (calls.filterMap HostCall.command? = [] ∨ calls.filterMap HostCall.device? = []) := by
  cases operation with
  | run c =>
    rw [show calls = [.command c] from asks]
    exact ⟨Nat.le_refl 1, Or.inr rfl⟩
  | makeTap | deleteTap =>
    obtain ⟨accesses, rfl⟩ := asks
    rw [accessesUnstarted]
    exact ⟨Nat.zero_le 1, Or.inl rfl⟩

theorem planAsks {tools : Tools} {verb : Verb} {calls : List HostCall}
    (asks : Asks (verb.plan tools) calls) :
    (verb.kind ∈ [.ifUp, .ifDown, .ifAddress, .addToBridge, .removeFromBridge] →
        calls.filterMap HostCall.device? = []) ∧
      (verb.kind ∈ [.makeTap, .deleteTap] → calls.filterMap HostCall.command? = []) := by
  cases verb with
  | makeTap | deleteTap =>
    obtain ⟨accesses, rfl⟩ := asks
    exact ⟨fun kind => absurd kind (by simp [Verb.kind]), fun _ => accessesUnstarted accesses⟩
  | ifUp | ifDown | ifAddress | addToBridge | removeFromBridge =>
    have asks : calls = [.command _] := asks
    rw [asks]
    exact ⟨fun _ => rfl, fun kind => absurd kind (by simp [Verb.kind])⟩

def troubles (verb : Verb) : Except Fault Unit → List Log.Record
  | .ok () => []
  | .error e => [⟨.error, .verbs, s!"{verb.quoted} failed: {e.message}"⟩]

theorem dispatchErrors (h : Host κ σ) (tools : Tools) (verb : Verb) {s : σ}
    (mild : ∀ e ∈ ((h.perform (verb.plan tools)).run s).trace, e.Mild) :
    Trace.errors ((verb.dispatch h tools).run s).trace =
      troubles verb ((h.perform (verb.plan tools)).run s).result := by
  rcases performed : (h.perform (verb.plan tools)).run s with ⟨answer, s', trace⟩
  rw [performed] at mild
  rw [dispatchRun h tools verb performed]
  change Trace.errors ([.log (announced tools verb)] ++ (trace ++ epilogue verb answer)) = _
  rw [Trace.errorsAppend, Trace.errorsAppend, Trace.errorsMild mild]
  cases answer <;> rfl

structure Complained (verb : Verb) (e : Fault) (trace : List (Effect κ)) : Prop where
  silent : Trace.stdout trace = []
  line : Trace.stderr trace = Text.Utf8.encode ("qemu-bridge: " ++ e.message ++ "\n")
  recorded : Trace.errors trace = [⟨.error, .verbs, s!"{verb.quoted} failed: {e.message}"⟩]

structure Ends (l : Linux HostCall σ) (tools : Tools) (verb : Verb) (s : σ)
    (ran : Ran HostCall σ Int) : Prop where
  status : ran.result = .ok 0 ∨ ran.result = .ok 1
  asks : Asks (verb.plan tools) (Trace.calls ran.trace)
  succeeds : ran.result = .ok 0 ↔ l.Done s (verb.plan tools)
  untroubled : ran.result = .ok 0 → Trace.errors ran.trace = []
  complains : ran.result = .ok 1 → ∃ e, Complained verb e ran.trace ∧
    ((l.host.perform (verb.plan tools)).run s).result = .error e

theorem dispatchEnds {l : Linux HostCall σ} (tells : l.Tells) (tools : Tools) (verb : Verb)
    (s : σ) : Ends l tools verb s ((verb.dispatch l.host tools).run s) := by
  have carried := Linux.performCarried tells (verb.plan tools) s
  have performs := dispatchPerforms l.host tools verb s
  have errors := dispatchErrors l.host tools verb carried.mild
  have ended := performs.status
  cases answer : ((l.host.perform (verb.plan tools)).run s).result with
  | ok done =>
    rw [answer] at ended errors
    exact {
      status := Or.inl ended
      asks := performs.calls ▸ carried.asks
      succeeds := ⟨fun _ => carried.done.mp answer, fun _ => ended⟩
      untroubled := fun _ => errors
      complains := fun failed => by
        rw [ended] at failed
        cases failed }
  | error e =>
    rw [answer] at ended errors
    have failed : ((verb.dispatch l.host tools).run s).result = .ok 1 := by
      rw [ended, status, carried.exits e answer]
    obtain ⟨out, err⟩ := carried.silent e answer
    have complains := performs.complains
    rw [answer, err, List.nil_append] at complains
    have undone : ¬ ((verb.dispatch l.host tools).run s).result = .ok 0 := fun succeeded => by
      rw [failed] at succeeded
      cases succeeded
    exact {
      status := Or.inr failed
      asks := performs.calls ▸ carried.asks
      succeeds := ⟨fun succeeded => absurd succeeded undone, fun done => by
        rw [carried.done.mpr done] at answer
        cases answer⟩
      untroubled := fun succeeded => absurd succeeded undone
      complains := fun _ => ⟨e, ⟨by rw [performs.output, Trace.stdout, out, List.flatten_nil],
        by rw [Trace.stderr, complains, complaint, List.flatten_singleton], errors⟩, answer⟩ }

end Verb

namespace CommandLine

structure Exits (ran : Ran HostCall σ Int) : Prop where
  status : ran.result = .ok 0 ∨ ran.result = .ok 1
  once : (Trace.commands ran.trace).length ≤ 1
  apart : Trace.commands ran.trace = [] ∨ Trace.requests ran.trace = []

theorem runVerbExits {l : Linux HostCall σ} (tells : l.Tells) (tools : Tools) (argv : List Bytes)
    (s : σ) : Exits ((runVerb l.host tools argv).run s) := by
  cases read : VerbCall.ofArgv argv with
  | error ending =>
    have rejects := runVerbRejects l.host tools s read
    obtain ⟨-, uncalled, -⟩ := rejects.untouched
    have unstarted : Trace.commands ((runVerb l.host tools argv).run s).trace = [] := by
      rw [Trace.commands, uncalled]
      rfl
    refine ⟨?_, by rw [unstarted]; exact Nat.zero_le 1, Or.inl unstarted⟩
    rw [rejects.status]
    cases ending.displays
    · exact Or.inr rfl
    · exact Or.inl rfl
  | ok call =>
    rw [runVerbCalled l.host tools s read]
    have ends := Verb.dispatchEnds tells tools call.verb s
    obtain ⟨once, apart⟩ := Verb.asksApart ends.asks
    exact ⟨ends.status, once, apart⟩

/-- Whatever the accounts are and the system answers, a command line ends with 0 or 1. One that is
understood ends with 0 exactly if its command or the requests of its verb all came to a good end,
and else complains once. -/
theorem runVerbEnds (accounts : Owner.Accounts) (controlDevice : Bytes)
    (openDevice : Bytes → Option IoFault) (request : Tap.Call → σ → Int × σ)
    (spawn : Command → σ → Except IoFault Command.Output × σ) (tools : Tools)
    (argv : List Bytes) (s : σ) :
    let l := Linux.answering accounts controlDevice openDevice request spawn
    let ran := (runVerb l.host tools argv).run s
    Exits ran ∧ ∀ call, VerbCall.ofArgv argv = .ok call →
      Verb.Ends l tools call.verb s ran ∧
        (∀ c, call.verb.plan tools = .run c → (ran.result = .ok 0 ↔
          ∃ output, (spawn c s).1 = .ok output ∧ output.status.raw = 0)) ∧
        (call.verb.kind ∈ [.ifUp, .ifDown, .ifAddress, .addToBridge, .removeFromBridge] →
          Trace.requests ran.trace = []) ∧
        (call.verb.kind ∈ [.makeTap, .deleteTap] → Trace.commands ran.trace = []) := by
  have tells := Linux.answeringTells accounts controlDevice openDevice request spawn
  refine ⟨runVerbExits tells tools argv s, fun call read => ?_⟩
  rw [runVerbCalled _ tools s read]
  have ends := Verb.dispatchEnds tells tools call.verb s
  refine ⟨ends, fun c planned => ends.succeeds.trans ?_, Verb.planAsks ends.asks⟩
  rw [planned]
  exact Linux.answeringDone accounts controlDevice openDevice request spawn c s

theorem killedEnds :
    let l : Linux HostCall Unit := .answering ⟨fun _ => .absent, fun _ => .absent, 0⟩ []
      (fun _ => none) (fun _ s => (0, s)) fun _ s => (.ok ⟨.killed 9, [], []⟩, s)
    let argv := ["qemu-bridge", "ifup", "tap0"].map Text.Utf8.encode
    let ran := (runVerb l.host {} argv).run ()
    ∃ call, VerbCall.ofArgv argv = .ok call ∧ call.verb = .ifUp "tap0" ∧ ran.result = .ok 1 ∧
      Trace.requests ran.trace = [] ∧ ∃ e, Verb.Complained call.verb e ran.trace := by
  intro l argv ran
  have found : Verb.ofWords? ["ifup", "tap0"] = some (.ifUp "tap0") := by decide
  have read : VerbCall.ofArgv argv = .ok ⟨{}, .ifUp "tap0"⟩ := by
    have plain : ∀ word ∈ ["ifup", "tap0"], Plain word := by simp [Plain]
    have whole := plainCall (Text.Utf8.encode "qemu-bridge") plain
    rwa [found] at whole
  obtain ⟨exits, each⟩ := runVerbEnds ⟨fun _ => .absent, fun _ => .absent, 0⟩ []
    (fun _ => none) (fun _ s => (0, s)) (fun _ s => (.ok ⟨.killed 9, [], []⟩, s)) {} argv ()
  obtain ⟨ends, started, unasked, -⟩ := each _ read
  have failed : ran.result = .ok 1 := by
    refine ends.status.resolve_left fun succeeded => ?_
    obtain ⟨output, same, success⟩ := (started _ rfl).mp succeeded
    cases same
    exact absurd success (by decide)
  obtain ⟨e, complained, -⟩ := ends.complains failed
  exact ⟨_, read, rfl, failed, unasked (by decide), e, complained⟩

end CommandLine
end VmBridge
