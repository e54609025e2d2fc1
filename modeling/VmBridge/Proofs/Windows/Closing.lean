import VmBridge.Proofs.Windows.Stages
/-! How a session on the network configuration ends. Whatever becomes of a request, a session
that began is ended once, and a lock that was passed is released once, after all other calls. -/
namespace VmBridge.Windows
open Binding

namespace Machine
variable (w : Machine)

theorem demandYields (blame : String → Fault) (c : Code) (s : Ahead) :
    Act.Yields Effect.call? (w.demand blame c) s []
      (if c.fails then .error (blame (w.describe c)) else .ok ()) s := by
  unfold demand
  split
  · exact Act.yieldsFail _ s
  · exact Act.yieldsPure () s

theorem demandObjectYields (blame : String → Fault) (r : Reply) (s : Ahead) :
    Act.Yields Effect.call? (w.demandObject blame r) s []
      (r.refusal?.elim (.ok ()) fun c => .error (blame (w.describe c))) s := by
  unfold demandObject
  cases r.refusal? with
  | none => exact Act.yieldsPure () s
  | some c => exact Act.yieldsFail _ s

theorem createObjectYields (blame : String → Fault) (c : ObjectClass) (s : Ahead) :
    Act.Yields Effect.call? (w.createObject blame c) s [.create c]
      (s.takeObject.1.refusal?.elim (.ok ()) fun c => .error (blame (w.describe c)))
      s.takeObject.2 :=
  Act.yieldsOk (Act.yieldsCall (Call.create c) s)
    (Act.yieldsOk (Act.yieldsTake Ahead.takeObject s) (w.demandObjectYields blame _ _))

theorem lockOutcomePassed :
    w.lockOutcome = .ok () ↔ w.lock.fails = false ∧ w.lockHolder = none := by
  unfold lockOutcome
  by_cases unwritable : w.lock = Code.noWriteLock
  · have fails : w.lock.fails = true := by rw [unwritable]; decide
    rw [unwritable] at fails
    simp [unwritable, fails]
  · cases w.lock.fails <;> cases w.lockHolder <;> simp [unwritable]

theorem freeYields (t : SystemString) (s : Ahead) : ∃ freed,
    (∀ c ∈ freed, c.stage = .memory) ∧ Act.Yields Effect.call? t.free s freed (.ok ()) s := by
  cases t with
  | none => exact ⟨[], by simp, Act.yieldsPure () s⟩
  | some units => exact ⟨[.freeString (units.length + 1)], by simp [Call.stage], Act.yieldsCall _ s⟩

theorem acquireLockYields (timeout : UInt32) (s : Ahead) : ∃ freed,
    (∀ c ∈ freed, c.stage = .memory) ∧
      Act.Yields Effect.call? (w.acquireLock timeout) s (.acquireLock timeout :: freed)
        w.lockOutcome s := by
  obtain ⟨freed, memory, run⟩ := freeYields w.lockHolder s
  exact ⟨freed, memory, Act.yieldsOk (Act.yieldsCall _ s)
    (Act.yieldsClosing (Act.yieldsOfExcept w.lockOutcome s) run)⟩

theorem releaseLockYields (s : Ahead) :
    Act.Yields Effect.call? w.releaseLock s [.releaseLock] (.ok ()) s := by
  refine Act.yieldsOk (Act.yieldsCall _ s) ?_
  split
  · exact Act.yieldsQuiet rfl s
  · exact Act.yieldsPure () s

theorem beginSessionYields (s : Ahead) :
    Act.Yields Effect.call? w.beginSession s [.beginSession]
      (if w.beginning.fails then .error (.notifyObject (w.describe w.beginning)) else .ok ()) s :=
  Act.yieldsOk (Act.yieldsCall Call.beginSession s) (w.demandYields .notifyObject w.beginning s)

theorem endSessionYields (s : Ahead) :
    Act.Yields Effect.call? w.endSession s [.endSession] (.ok ()) s := by
  refine Act.yieldsOk (Act.yieldsCall _ s) ?_
  split
  · exact Act.yieldsQuiet rfl s
  · exact Act.yieldsPure () s

theorem closeSessionYields (s : Ahead) :
    Act.Yields Effect.call? w.closeSession s [.endSession, .releaseLock] (.ok ()) s :=
  Act.yieldsOk (w.endSessionYields s) (w.releaseLockYields s)

def passesLock (timeout : UInt32) (calls : List Call) : Prop :=
  .acquireLock timeout ∈ calls ∧ w.lock.fails = false ∧ w.lockHolder = none

def closers : List Call :=
  if w.beginning.fails then [.releaseLock] else [.endSession, .releaseLock]

def closingBy (ending release : Code) : Machine := { w with ending, release }

section Closing
variable (ending release : Code)

theorem collectConnectionsSame (index : Nat) (items : List ConnectionItem) :
    (w.closingBy ending release).collectConnections index items =
      w.collectConnections index items := by
  induction items generalizing index with
  | nil => rfl
  | cons item rest ih =>
    simp only [collectConnections, ih]
    rfl

theorem ensureNotSharedSame (deviceId : String) :
    (w.closingBy ending release).ensureNotShared deviceId = w.ensureNotShared deviceId := by
  have listed : (w.closingBy ending release).connectionList = w.connectionList := by
    simp only [connectionList, collectConnectionsSame]
    rfl
  have asked : (w.closingBy ending release).inspector = w.inspector := by
    unfold inspector
    rw [listed]
    rfl
  unfold ensureNotShared
  rw [asked]
  rfl

theorem pathsFromSame (index : Nat) (items : List PathItem) :
    (w.closingBy ending release).pathsFrom index items = w.pathsFrom index items := by
  induction items generalizing index with
  | nil => rfl
  | cons item rest ih =>
    simp only [pathsFrom, ih]
    rfl

theorem toggleSame (infId wanted : String) (on : Bool) :
    (w.closingBy ending release).netConfig.toggle infId wanted on =
      w.netConfig.toggle infId wanted on := by
  have listed : (w.closingBy ending release).pathsBelow = w.pathsBelow := by
    unfold pathsBelow
    simp only [pathsFromSame]
    rfl
  unfold NetConfig.toggle netConfig
  simp only [listed]
  rfl

end Closing
end Machine

structure Begun (w : Machine) (timeout : UInt32) (calls : List Call) : Prop where
  unclosed : ∀ c ∈ calls, c.stage ≠ .closing
  passed : w.passesLock timeout calls
  begun : .beginSession ∈ calls

inductive Closed (w : Machine) (timeout : UInt32) : List Call → Prop where
  | unlocked {calls} (unclosed : ∀ c ∈ calls, c.stage ≠ .closing)
      (held : ¬ w.passesLock timeout calls) (unbegun : .beginSession ∉ calls) :
      Closed w timeout calls
  | locked {calls} (begun : Begun w timeout calls) : Closed w timeout (calls ++ w.closers)

structure Released (w : Machine) (timeout : UInt32) (calls : List Call) : Prop where
  begun : w.passesLock timeout calls → .beginSession ∈ calls
  endedOnce : .beginSession ∈ calls → w.beginning.fails = false → calls.count .endSession = 1
  neverEnded : ¬ (.beginSession ∈ calls ∧ w.beginning.fails = false) → .endSession ∉ calls
  releasedOnce : w.passesLock timeout calls → calls.count .releaseLock = 1
  neverReleased : ¬ w.passesLock timeout calls → .endSession ∉ calls ∧ .releaseLock ∉ calls
  releaseLast : calls.Pairwise fun earlier _ => earlier ≠ .releaseLock
  endLate : calls.Pairwise fun earlier later => earlier = .endSession → later = .releaseLock

section Calls
variable {w : Machine} {timeout : UInt32} {calls : List Call}

theorem begunThen (h : Begun w timeout calls) {work : List Call}
    (unclosed : ∀ c ∈ work, c.stage ≠ .closing) : Begun w timeout (calls ++ work) where
  unclosed := List.forall_mem_append.mpr ⟨h.unclosed, unclosed⟩
  passed := ⟨List.mem_append_left _ h.passed.1, h.passed.2⟩
  begun := List.mem_append_left _ h.begun

theorem stageElse {stage other : Stage} (all : ∀ c ∈ calls, c.stage = stage)
    (differ : stage ≠ other) : ∀ c ∈ calls, c.stage ≠ other := fun c mem => by
  rw [all c mem]
  exact differ

theorem guardUnclosed {before : List Call} (guards : ∀ c ∈ before, c.guards) :
    ∀ c ∈ before, c.stage ≠ .closing := stageElse guards (by decide)

theorem memoryUnclosed {freed : List Call} (memory : ∀ c ∈ freed, c.stage = .memory) :
    ∀ c ∈ freed, c.stage ≠ .closing := stageElse memory (by decide)

theorem begunAfter {before : List Call} (guards : ∀ c ∈ before, c.guards)
    (h : Begun w timeout calls) : Begun w timeout (before ++ calls) where
  unclosed := List.forall_mem_append.mpr ⟨guardUnclosed guards, h.unclosed⟩
  passed := ⟨List.mem_append_right _ h.passed.1, h.passed.2⟩
  begun := List.mem_append_right _ h.begun

theorem guardLacks {before : List Call} (guards : ∀ c ∈ before, c.guards) (c : Call)
    (other : c.stage ≠ .guard) : c ∉ before := fun mem => other (guards c mem)

theorem guardsClosed (guards : ∀ c ∈ calls, c.guards) : Closed w timeout calls :=
  have unasked := guardLacks guards (.acquireLock timeout) (by simp [Call.stage])
  .unlocked (guardUnclosed guards) (fun passed => unasked passed.1)
    (guardLacks guards .beginSession (by simp [Call.stage]))

theorem closedAfter {before : List Call} (guards : ∀ c ∈ before, c.guards)
    (h : Closed w timeout calls) : Closed w timeout (before ++ calls) := by
  cases h with
  | unlocked unclosed held unbegun =>
    have unasked := guardLacks guards (.acquireLock timeout) (by simp [Call.stage])
    have unmade := guardLacks guards .beginSession (by simp [Call.stage])
    refine .unlocked (List.forall_mem_append.mpr ⟨guardUnclosed guards, unclosed⟩)
      (fun passed => ?_) ?_
    · exact held ⟨(List.mem_append.mp passed.1).resolve_left unasked, passed.2⟩
    · simp [unmade, unbegun]
  | locked begun =>
    rw [← List.append_assoc]
    exact .locked (begunAfter guards begun)

theorem unclosedLacks (unclosed : ∀ c ∈ calls, c.stage ≠ .closing) :
    .endSession ∉ calls ∧ .releaseLock ∉ calls :=
  ⟨fun mem => unclosed _ mem rfl, fun mem => unclosed _ mem rfl⟩

theorem unclosedOrder (unclosed : ∀ c ∈ calls, c.stage ≠ .closing) :
    (calls.Pairwise fun earlier _ => earlier ≠ .releaseLock) ∧
      calls.Pairwise fun earlier later => earlier = .endSession → later = .releaseLock := by
  obtain ⟨unended, unreleased⟩ := unclosedLacks unclosed
  constructor
  · exact List.pairwise_of_forall_mem_list fun c mem _ _ same => unreleased (same ▸ mem)
  · exact List.pairwise_of_forall_mem_list fun c mem _ _ same => absurd (same ▸ mem) unended

theorem closedReleased (h : Closed w timeout calls) : Released w timeout calls := by
  cases h with
  | unlocked unclosed held unbegun =>
    have lacks := unclosedLacks unclosed
    exact {
      begun := fun passed => absurd passed held
      endedOnce := fun begun => absurd begun unbegun
      neverEnded := fun _ => lacks.1
      releasedOnce := fun passed => absurd passed held
      neverReleased := fun _ => lacks
      releaseLast := (unclosedOrder unclosed).1
      endLate := (unclosedOrder unclosed).2 }
  | @locked calls begun =>
    have lacks := unclosedLacks begun.unclosed
    have unended := List.count_eq_zero.mpr lacks.1
    have unreleased := List.count_eq_zero.mpr lacks.2
    have order := unclosedOrder begun.unclosed
    have passed : w.passesLock timeout (calls ++ w.closers) :=
      ⟨List.mem_append_left _ begun.passed.1, begun.passed.2⟩
    have made : Call.beginSession ∈ calls ++ w.closers := List.mem_append_left _ begun.begun
    exact {
      begun := fun _ => made
      endedOnce := fun _ begins => by simp [Machine.closers, begins, unended]
      neverEnded := fun unbegun => by
        have fails : w.beginning.fails = true :=
          Bool.not_eq_false _ |>.mp fun begins => unbegun ⟨made, begins⟩
        simp [Machine.closers, fails, lacks.1]
      releasedOnce := fun _ => by
        unfold Machine.closers
        split <;> simp [unreleased]
      neverReleased := fun held => absurd passed held
      releaseLast := List.pairwise_append.mpr ⟨order.1, by
        unfold Machine.closers
        split <;> simp, fun c mem _ _ same => lacks.2 (same ▸ mem)⟩
      endLate := List.pairwise_append.mpr ⟨order.2, by
        unfold Machine.closers
        split <;> simp, fun c mem _ _ same => absurd (same ▸ mem) lacks.1⟩ }

end Calls

def opens (timeout : UInt32) (freed later : List Call) : List Call :=
  .create .netConfig :: .asLock :: .acquireLock timeout :: (freed ++ .beginSession :: later)

inductive Opening (w : Machine) (timeout : UInt32) : List Call → Except Fault Unit → Prop where
  | uncreated (e : Fault) : Opening w timeout [.create .netConfig] (.error e)
  | uncast (e : Fault) : Opening w timeout [.create .netConfig, .asLock] (.error e)
  | held {freed e} (memory : ∀ c ∈ freed, c.stage = .memory) (outcome : w.lockOutcome = .error e) :
      Opening w timeout (.create .netConfig :: .asLock :: .acquireLock timeout :: freed) (.error e)
  | unbegun {freed} (memory : ∀ c ∈ freed, c.stage = .memory) (passed : w.lockOutcome = .ok ())
      (fails : w.beginning.fails = true) (e : Fault) :
      Opening w timeout (opens timeout freed [.releaseLock]) (.error e)
  | opened {freed} (memory : ∀ c ∈ freed, c.stage = .memory) (passed : w.lockOutcome = .ok ())
      (begins : w.beginning.fails = false) : Opening w timeout (opens timeout freed []) (.ok ())

section Opening
variable {w : Machine} {timeout : UInt32} {calls : List Call}

theorem opensBegun {freed : List Call} (memory : ∀ c ∈ freed, c.stage = .memory)
    (passed : w.lockOutcome = .ok ()) : Begun w timeout (opens timeout freed []) where
  unclosed := by simpa [opens, Call.stage, or_imp, forall_and] using memoryUnclosed memory
  passed := ⟨by simp [opens], w.lockOutcomePassed.mp passed⟩
  begun := by simp [opens]

theorem openingStages {result : Except Fault Unit} (h : Opening w timeout calls result) :
    ∀ c ∈ calls, c.stage = .opening ∨ c.stage = .memory ∨ c.stage = .closing := by
  have freeing : ∀ {freed : List Call}, (∀ c ∈ freed, c.stage = .memory) → ∀ c ∈ freed,
      c.stage = .opening ∨ c.stage = .memory ∨ c.stage = .closing :=
    fun memory c mem => .inr (.inl (memory c mem))
  cases h with
  | uncreated | uncast => simp [Call.stage]
  | held memory => simpa [Call.stage] using freeing memory
  | unbegun memory | opened memory =>
    simpa [opens, Call.stage, or_imp, forall_and] using freeing memory

theorem openingClosed {e : Fault} (h : Opening w timeout calls (.error e)) :
    Closed w timeout calls := by
  cases h with
  | uncreated | uncast =>
    refine .unlocked ?_ ?_ ?_ <;> simp [Machine.passesLock, Call.stage]
  | held memory outcome =>
    have unbegun : Call.beginSession ∉ _ := fun mem => by cases memory _ mem
    refine .unlocked ?_ (fun passed => ?_) (by simpa using unbegun)
    · simpa [Call.stage] using memoryUnclosed memory
    · rw [w.lockOutcomePassed.mpr passed.2] at outcome
      cases outcome
  | unbegun memory passed fails =>
    have closers : w.closers = [.releaseLock] := by simp [Machine.closers, fails]
    have closed : Closed w timeout _ := .locked (opensBegun memory passed)
    simpa [opens, closers] using closed

theorem openingBegun (h : Opening w timeout calls (.ok ())) :
    Begun w timeout calls ∧ w.beginning.fails = false := by
  cases h with
  | opened memory passed begins => exact ⟨opensBegun memory passed, begins⟩

end Opening

namespace Machine
variable (w : Machine)

theorem openSessionOpens {timeout : UInt32} {freed : List Call} {s : Ahead}
    (created : s.takeObject.1.refusal? = none) (casts : w.asLock.fails = false)
    (acquired : Act.Yields Effect.call? (w.acquireLock timeout) s.takeObject.2
      (.acquireLock timeout :: freed) (.ok ()) s.takeObject.2)
    (begins : w.beginning.fails = false) : Act.Yields Effect.call? (w.openSession timeout) s
      (opens timeout freed []) (.ok w.netConfig) s.takeObject.2 := by
  have made := w.createObjectYields .notifyObject .netConfig s
  have cast := w.demandYields .notifyObject w.asLock s.takeObject.2
  have began := w.beginSessionYields s.takeObject.2
  rw [created] at made
  rw [if_neg (by simp [casts])] at cast
  rw [if_neg (by simp [begins])] at began
  exact Act.yieldsOk made (Act.yieldsOk (Act.yieldsCall _ _) (Act.yieldsOk cast
    (Act.yieldsOk acquired (Act.yieldsOk (Act.yieldsKept began)
      (Act.yieldsOk (Act.yieldsQuiet rfl _) (Act.yieldsPure _ _))))))

theorem openSessionOpening (timeout : UInt32) (s : Ahead) : ∃ calls result s',
    Opening w timeout calls result ∧ ∀ ending release,
      Act.Yields Effect.call? ((w.closingBy ending release).openSession timeout) s calls
        (result.map fun _ => (w.closingBy ending release).netConfig) s' := by
  -- The calls and the state are named before the closing answers, so they depend on none.
  have created := w.createObjectYields .notifyObject .netConfig s
  cases answer : s.takeObject.1.refusal? with
  | some code =>
    rw [answer] at created
    exact ⟨_, .error _, _, .uncreated _, fun _ _ => Act.yieldsError created⟩
  | none =>
    rw [answer] at created
    have asked := Act.yieldsCall Call.asLock s.takeObject.2
    have cast := w.demandYields .notifyObject w.asLock s.takeObject.2
    by_cases uncast : w.asLock.fails
    · rw [if_pos uncast] at cast
      exact ⟨_, .error _, _, .uncast _, fun _ _ =>
        Act.yieldsOk created (Act.yieldsOk asked (Act.yieldsError cast))⟩
    rw [if_neg uncast] at cast
    obtain ⟨freed, memory, acquired⟩ := w.acquireLockYields timeout s.takeObject.2
    match outcome : w.lockOutcome with
    | .error e =>
      rw [outcome] at acquired
      exact ⟨_, .error e, _, .held memory outcome, fun _ _ =>
        Act.yieldsOk created (Act.yieldsOk asked (Act.yieldsOk cast (Act.yieldsError acquired)))⟩
    | .ok () =>
      rw [outcome] at acquired
      have began := w.beginSessionYields s.takeObject.2
      by_cases fails : w.beginning.fails
      · rw [if_pos fails] at began
        refine ⟨_, .error (.notifyObject (w.describe w.beginning)), s.takeObject.2,
          .unbegun memory outcome fails _, fun ending release => ?_⟩
        have undone := Act.yieldsUndone began
          ((w.closingBy ending release).releaseLockYields s.takeObject.2)
        exact Act.yieldsOk created (Act.yieldsOk asked
          (Act.yieldsOk cast (Act.yieldsOk acquired (Act.yieldsError undone))))
      · rw [if_neg fails] at began
        have begins : w.beginning.fails = false := by simpa using fails
        exact ⟨_, .ok (), s.takeObject.2, .opened memory outcome begins, fun ending release =>
          (w.closingBy ending release).openSessionOpens answer (Bool.eq_false_iff.mpr uncast)
            acquired begins⟩

theorem toggleClosed (timeout : UInt32) (infId wanted : String) (on : Bool) (s : Ahead) :
    ∃ calls result s', Closed w timeout calls ∧ ∀ ending release,
      Act.Yields Effect.call?
        (((w.closingBy ending release).backend timeout).toggle infId wanted on) s calls result
        s' := by
  obtain ⟨calls, result, s', opening, run⟩ := w.openSessionOpening timeout s
  cases result with
  | error e =>
    exact ⟨calls, .error e, s', openingClosed opening, fun ending release =>
      Act.yieldsError (run ending release)⟩
  | ok opened =>
    obtain ⟨begun, begins⟩ := openingBegun opening
    have unclosed : ∀ c ∈ Trace.calls ((w.netConfig.toggle infId wanted on).run s').trace,
        c.stage ≠ .closing := fun c mem same => by
      have works := Act.onlyCalls (w.toggleWorks infId wanted on) s' c mem
      simp [Call.works, same] at works
    have worked := Closed.locked (begunThen begun unclosed)
    have closers : w.closers = [.endSession, .releaseLock] := by simp [closers, begins]
    rw [closers, List.append_assoc] at worked
    have work : ∀ ending release, Act.Yields Effect.call?
        ((w.closingBy ending release).netConfig.toggle infId wanted on) s' _ _ _ :=
      fun ending release => by
        rw [w.toggleSame]
        exact Act.yieldsRun _ _
    exact ⟨_, _, _, worked, fun ending release => Act.yieldsOk (run ending release)
      (Act.yieldsClosing (work ending release) ((w.closingBy ending release).closeSessionYields _))⟩

theorem checkGuards (timeout : UInt32) (policy : Sharing.Policy) (r : Request) :
    Act.Only Call.guards ((w.backend timeout).check policy r) := by
  unfold Backend.check
  split
  · exact w.ensureNotSharedGuards r.deviceId
  · exact Act.onlyPure ()

theorem checkSame (ending release : Code) (timeout : UInt32) (policy : Sharing.Policy)
    (r : Request) : ((w.closingBy ending release).backend timeout).check policy r =
      (w.backend timeout).check policy r := by
  unfold Backend.check
  exact congrArg (fun guard => if policy.applies r.action then guard else pure ())
    (w.ensureNotSharedSame ending release r.deviceId)

theorem executeClosed (timeout : UInt32) (policy : Sharing.Policy) (r : Request) (s : Ahead) :
    ∃ calls result s', Closed w timeout calls ∧ ∀ ending release, Act.Yields Effect.call?
      (((w.closingBy ending release).backend timeout).execute policy r) s calls result s' := by
  have check : Act.Yields Effect.call? ((w.backend timeout).check policy r) s _ _ _ :=
    Act.yieldsRun _ s
  have guards := Act.onlyCalls (w.checkGuards timeout policy r) s
  rcases answer : ((w.backend timeout).check policy r).run s with ⟨result, s', trace⟩
  rw [answer] at check guards
  cases result with
  | error e =>
    refine ⟨_, .error e, s', guardsClosed guards, fun ending release => ?_⟩
    unfold Backend.execute
    rw [w.checkSame]
    exact Act.yieldsError check
  | ok done =>
    obtain ⟨calls, result, s'', closed, run⟩ :=
      w.toggleClosed timeout r.infId r.token r.action.enables s'
    refine ⟨_, result, s'', closedAfter guards closed, fun ending release => ?_⟩
    unfold Backend.execute
    rw [w.checkSame]
    exact Act.yieldsOk check (run ending release)

end Machine

/-- A session that began is ended once and a lock that was passed is released once, after all
other calls; what those two calls answer changes nothing. -/
theorem executeReleases (w : Machine) (timeout : UInt32) (policy : Sharing.Policy) (r : Request)
    (s : Ahead) :
    let ran := ((w.backend timeout).execute policy r).run s
    Released w timeout (Trace.calls ran.trace) ∧ ∀ ending release,
      let other := (({ w with ending, release }.backend timeout).execute policy r).run s
      other.result = ran.result ∧ Trace.calls other.trace = Trace.calls ran.trace := by
  obtain ⟨calls, result, s', closed, run⟩ := w.executeClosed timeout policy r s
  have same : Act.Yields Effect.call? ((w.backend timeout).execute policy r) s calls result s' :=
    run w.ending w.release
  refine ⟨?_, fun ending release => ⟨?_, ?_⟩⟩
  · rw [Trace.calls, same.seen]
    exact closedReleased closed
  · exact (run ending release).result.trans same.result.symm
  · exact (run ending release).seen.trans same.seen.symm

end VmBridge.Windows
