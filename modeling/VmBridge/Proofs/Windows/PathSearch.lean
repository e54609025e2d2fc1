import VmBridge.Proofs.Binding.FirstPath
import VmBridge.Proofs.Windows.Guarding
import VmBridge.Proofs.Windows.PathListing
/-! The path that a request takes of those that a listing gives. It is the first whose token can be
read and is the wanted one, and no path is asked for after it. -/
namespace VmBridge.Windows
open Binding

def Call.pulls : Call → Bool
  | nextPath _ => true
  | _ => false

def carries (wanted : String) : Except Fault Path → Bool
  | .ok p => !p.item.tokenCode.fails && p.item.token.text = wanted
  | .error _ => false

inductive Sought (wanted : String) :
    Nat → List (Except Fault Path) → List Call → Option Path → Prop where
  | spent (index) : Sought wanted index [] [.nextPath index] none
  | stopped (index e) : Sought wanted index [.error e] [.nextPath index] none
  | found {freed} (p rest) (memory : ∀ c ∈ freed, c.stage = .memory)
      (same : carries wanted (.ok p) = true) :
      Sought wanted p.index (.ok p :: rest) (.nextPath p.index :: .pathToken p.index :: freed)
        (some p)
  | passed {p freed rest calls found} (memory : ∀ c ∈ freed, c.stage = .memory)
      (other : carries wanted (.ok p) = false)
      (later : Sought wanted (p.index + 1) rest calls found) :
      Sought wanted p.index (.ok p :: rest)
        (.nextPath p.index :: .pathToken p.index :: (freed ++ calls)) found

theorem idleUnpulled {calls : List Call} (idle : ∀ c ∈ calls, c.stage ≠ .work) :
    calls.filter Call.pulls = [] := by
  rw [List.filter_eq_nil_iff]
  intro c mem pulls
  cases c with
  | nextPath i => exact idle _ mem rfl
  | _ => cases pulls

theorem memoryUnpulled {freed : List Call} (memory : ∀ c ∈ freed, c.stage = .memory) :
    freed.filter Call.pulls = [] := idleUnpulled (stageElse memory (by decide))

section Sought
variable {wanted : String} {index : Nat} {given : List (Except Fault Path)} {calls : List Call}
variable {found : Option Path}

theorem soughtPulls (h : Sought wanted index given calls found) {k : Nat}
    (first : given.findIdx? (carries wanted) = some k) : ∃ before freed,
      calls = before ++ .pathToken (index + k) :: freed ∧
        before.filter Call.pulls = (List.range' index (k + 1)).map .nextPath ∧
        ∀ c ∈ freed, c.stage = .memory := by
  induction h generalizing k with
  | spent => cases first
  | stopped index e => cases first
  | @found freed p rest memory same =>
    rw [List.findIdx?_cons, if_pos same] at first
    cases first
    exact ⟨[.nextPath p.index], freed, rfl, rfl, memory⟩
  | @passed p freed rest calls found memory other later ih =>
    rw [List.findIdx?_cons, other] at first
    obtain ⟨i, place, rfl⟩ := Option.map_eq_some_iff.mp first
    obtain ⟨before, last, rfl, pulled, free⟩ := ih place
    refine ⟨.nextPath p.index :: .pathToken p.index :: (freed ++ before), last, ?_, ?_, free⟩
    · simp [Nat.add_comm, Nat.add_left_comm]
    · rw [List.range'_succ, List.map_cons, ← pulled, List.filter_cons_of_pos rfl,
        List.filter_cons_of_neg Bool.false_ne_true, List.filter_append, memoryUnpulled memory,
        List.nil_append]

theorem soughtFinds (h : Sought wanted index given calls found) :
    found = none ∧ given.findIdx? (carries wanted) = none ∨
      ∃ k p, found = some p ∧ given.findIdx? (carries wanted) = some k ∧ p.index = index + k := by
  induction h with
  | spent | stopped => exact .inl ⟨rfl, rfl⟩
  | found p rest memory same => exact .inr ⟨0, p, rfl, by simp [List.findIdx?_cons, same], rfl⟩
  | passed memory other later ih =>
    rw [List.findIdx?_cons, other]
    rcases ih with ⟨rfl, missed⟩ | ⟨k, p, rfl, first, place⟩
    · exact .inl ⟨rfl, by rw [missed]; rfl⟩
    · exact .inr ⟨k + 1, p, rfl, by rw [first]; rfl, by omega⟩

end Sought

namespace Machine
variable (w : Machine)

def tokenAnswer (p : Path) : Except Fault String :=
  if p.item.tokenCode.fails then .error (.netConfig (w.describe p.item.tokenCode))
  else .ok p.item.token.text

theorem pathTokenYields (p : Path) (s : Ahead) : ∃ freed, (∀ c ∈ freed, c.stage = .memory) ∧
    Act.Yields Effect.call? (w.pathToken p) s (.pathToken p.index :: freed) (w.tokenAnswer p)
      s := by
  have demanded := w.demandYields .netConfig p.item.tokenCode s
  unfold tokenAnswer
  split
  · rename_i fails
    rw [if_pos fails] at demanded
    exact ⟨[], by simp, Act.yieldsOk (Act.yieldsCall _ s) (Act.yieldsError demanded)⟩
  · rename_i succeeds
    rw [if_neg succeeds] at demanded
    obtain ⟨freed, memory, run⟩ := freeYields p.item.token s
    refine ⟨freed, memory, ?_⟩
    exact Act.yieldsOk (Act.yieldsCall _ s) (Act.yieldsOk demanded (Act.yieldsMap (fun _ => _) run))

theorem carriesFound {wanted : String} {p : Path} (same : carries wanted (.ok p) = true) :
    w.tokenAnswer p = .ok wanted := by
  simp only [carries, Bool.and_eq_true, Bool.not_eq_true', decide_eq_true_eq] at same
  rw [tokenAnswer, same.1, same.2]
  rfl

theorem carriesPassed {wanted : String} {p : Path} (other : carries wanted (.ok p) = false) :
    (Given.path p (w.tokenAnswer p)).stops wanted = false := by
  unfold tokenAnswer
  split
  · rfl
  · rename_i succeeds
    simpa [carries, succeeds, Given.stops] using other

theorem pathOffered (index : Nat) {item : PathItem} (gives : item.gives = true)
    (items : List PathItem) (s : Ahead) : ∃ freed trace, (∀ c ∈ freed, c.stage = .memory) ∧
      trace.filterMap Effect.call? = .nextPath index :: .pathToken index :: freed ∧
      (w.pathsFrom index (item :: items)).offers w.pathToken s =
        ⟨.path ⟨index, item⟩ (w.tokenAnswer ⟨index, item⟩), trace⟩ ::
          (w.pathsFrom (index + 1) items).offers w.pathToken s := by
  have pulled := w.pullPathYields index item s
  rw [doneGives gives, gives] at pulled
  obtain ⟨freed, memory, read⟩ := w.pathTokenYields ⟨index, item⟩ s
  have offered : (w.pathsFrom index (item :: items)).offers w.pathToken s = _ :=
    offersPath pulled.result
  rw [pulled.state, read.state, read.result] at offered
  refine ⟨freed, _, memory, ?_, offered⟩
  rw [List.filterMap_append, pulled.seen, read.seen]
  rfl

theorem pathsFromSought (wanted : String) (index : Nat) (items : List PathItem) (s : Ahead) :
    Sought wanted index (w.yielded index items)
      (tookShown Effect.call? wanted ((w.pathsFrom index items).offers w.pathToken s))
      (finds wanted ((w.pathsFrom index items).given w.pathToken s)) := by
  unfold Enumeration.given
  induction items generalizing index with
  | nil => exact .spent index
  | cons item items ih =>
    cases gives : item.gives with
    | true =>
      obtain ⟨freed, trace, memory, shown, offered⟩ := w.pathOffered index gives items s
      rw [offered, w.yieldedPath gives]
      cases same : carries wanted (.ok ⟨index, item⟩) with
      | true =>
        have stops : (Given.path (Path.mk index item) (.ok wanted)).stops wanted = true :=
          decide_eq_true rfl
        have found : (Given.path (Path.mk index item) (.ok wanted)).found? wanted = some _ :=
          if_pos rfl
        rw [w.carriesFound same, tookStopped stops, List.map_cons, findsStopped stops, found,
          Offer.shown, shown]
        exact .found ⟨index, item⟩ _ memory same
      | false =>
        have passed := w.carriesPassed same
        rw [tookPassed passed, List.map_cons, findsPassed passed, Offer.shown, shown]
        exact .passed memory same (ih (index + 1))
    | false =>
      have pulled := w.pullPathYields index item s
      rw [pathsFrom]
      cases fails : item.code.fails with
      | true =>
        rw [fails] at pulled
        rw [offersFailed pulled.result, w.yieldedFault gives fails, tookStopped rfl, List.map_cons,
          findsStopped rfl, Offer.shown, pulled.seen]
        exact .stopped index _
      | false =>
        rw [fails, gives] at pulled
        rw [offersEnded pulled.result, w.yieldedEnd gives fails, tookStopped rfl, List.map_cons,
          findsStopped rfl, Offer.shown, pulled.seen]
        exact .spent index

theorem changeYields (p : Path) (on : Bool) (s : Ahead) : ∃ after result,
    (∀ c ∈ after, c = .apply) ∧ Act.Yields Effect.call? (do
      (w.setEnabled p on).mapFault fun e => .toggle on e.message
      w.applyChanges) s (.enable p.index on :: after) result s := by
  have set := Act.yieldsMapFault (fun e => .toggle on e.message) (w.setEnabledYields p on s)
  cases refused : p.item.enable.fails with
  | true =>
    rw [refused, if_pos rfl] at set
    exact ⟨[], _, by simp, Act.yieldsError set⟩
  | false =>
    simp only [refused, Bool.false_eq_true, if_false] at set
    exact ⟨[.apply], _, by simp, Act.yieldsOk set (w.applyChangesYields s)⟩

end Machine

structure Machine.Reaches (w : Machine) (policy : Sharing.Policy) (r : Request) (s : Ahead) :
    Prop where
  checked : policy = .always ∨ policy = .bind ∧ r.action = .bind →
    ¬ w.Unguarded r.deviceId s ∧ ¬ w.FoundShared r.deviceId s
  created : ((if policy = .always ∨ policy = .bind ∧ r.action = .bind then s.objects.tail
    else s.objects).headD (.code 0)).gives = true
  casts : w.asLock < 0x80000000
  locks : w.lock < 0x80000000
  unheld : w.lockHolder = none
  begins : w.beginning < 0x80000000

structure Consumed (w : Machine) (reached : Prop) (r : Request) (calls : List Call) : Prop where
  pulled : reached → ∀ c k, w.component r.infId = some c → c.enumerable = true →
    (w.yielded 0 c.paths).findIdx? (carries (r.infId ++ "->" ++ r.deviceId)) = some k →
    ∃ before after, calls = before ++ .pathToken k :: after ∧
      before.filter Call.pulls = (List.range (k + 1)).map .nextPath ∧
      after.filter Call.pulls = [] ∧ .enable k (decide (r.action = .bind)) ∈ after
  toggled : ∀ index on, .enable index on ∈ calls → ∃ c item, w.component r.infId = some c ∧
    (w.yielded 0 c.paths).findIdx? (carries (r.infId ++ "->" ++ r.deviceId)) = some index ∧
    c.paths[index]? = some item ∧ item.tokenCode < 0x80000000 ∧ item.token ≠ none

theorem tokenNonempty (r : Request) : r.token ≠ "" := by
  intro same
  have length := congrArg String.length same
  simp [Request.token, pathToken] at length

theorem firstReadable {w : Machine} {r : Request} {items : List PathItem} {index : Nat}
    (first : (w.yielded 0 items).findIdx? (carries r.token) = some index) : ∃ item,
      items[index]? = some item ∧ item.tokenCode < 0x80000000 ∧ item.token ≠ none := by
  obtain ⟨within, same, _⟩ := List.findIdx?_eq_some_iff_getElem.mp first
  have stands := List.getElem?_eq_getElem within
  cases given : (w.yielded 0 items)[index] with
  | error e =>
    rw [given] at same
    cases same
  | ok p =>
    rw [given] at same stands
    simp only [carries, Bool.and_eq_true, Bool.not_eq_true', decide_eq_true_eq] at same
    refine ⟨p.item, (w.yieldedStands stands).2, Code.belowSucceeds.mp same.1,
      fun null => tokenNonempty r ?_⟩
    rw [← same.2, null]
    rfl

section Consumed
variable {w : Machine} {reached : Prop} {r : Request} {before work after : List Call}

theorem consumedNone (unreached : ¬ reached) : Consumed w reached r [] where
  pulled reaches := absurd reaches unreached
  toggled _ _ set := by cases set

theorem workAmid (idle : ∀ c ∈ before, c.stage ≠ .work) (done : ∀ c ∈ after, c.stage ≠ .work)
    {c : Call} (working : c.stage = .work) (made : c ∈ before ++ (work ++ after)) : c ∈ work := by
  rcases List.mem_append.mp made with early | later
  · exact absurd working (idle c early)
  · exact (List.mem_append.mp later).resolve_right fun late => done c late working

theorem openingIdle {timeout : UInt32} {opening : List Call} {result : Except Fault Unit}
    (h : Opening w timeout opening result) : ∀ c ∈ opening, c.stage ≠ .work := by
  intro c mem working
  have stage := openingStages h c mem
  simp [working] at stage

theorem consumedAmid (idle : ∀ c ∈ before, c.stage ≠ .work) (done : ∀ c ∈ after, c.stage ≠ .work)
    (h : Consumed w reached r work) : Consumed w reached r (before ++ (work ++ after)) where
  pulled reaches c k known opened first := by
    obtain ⟨front, back, rfl, pulls, rest, sets⟩ := h.pulled reaches c k known opened first
    refine ⟨before ++ front, back ++ after, by simp, ?_, ?_, List.mem_append_left _ sets⟩
    · rw [List.filter_append, idleUnpulled idle, pulls, List.nil_append]
    · rw [List.filter_append, idleUnpulled done, rest, List.nil_append]
  toggled index on set := h.toggled index on (workAmid idle done rfl set)

theorem soughtConsumed {c : Component} {calls : List Call} {found : Option Path}
    (tail : List Call) (known : w.component r.infId = some c)
    (sought : Sought r.token 0 (w.yielded 0 c.paths) calls found)
    (reads : ∀ call ∈ calls, call.reads) (still : tail.filter Call.pulls = [])
    (set : ∀ p ∈ found, .enable p.index r.action.enables ∈ tail)
    (sets : ∀ index on, .enable index on ∈ tail → ∃ p ∈ found, p.index = index) :
    Consumed w reached r
      (.findComponent r.infId :: .asBindings :: .enumeratePaths :: (calls ++ tail)) where
  pulled _ c' k known' _ first := by
    rw [known] at known'
    cases known'
    obtain ⟨before, freed, rfl, pulls, memory⟩ := soughtPulls sought first
    refine ⟨.findComponent r.infId :: .asBindings :: .enumeratePaths :: before, freed ++ tail,
      by simp, ?_, ?_, List.mem_append_right _ ?_⟩
    · rw [List.range_eq_range', ← pulls]
      rfl
    · rw [List.filter_append, memoryUnpulled memory, still]
      rfl
    · rcases soughtFinds sought with ⟨_, missed⟩ | ⟨k', p, chosen, first', place⟩
      · cases missed.symm.trans first
      · have here : p.index = k := by
          rw [place, Option.some.inj (first'.symm.trans first), Nat.zero_add]
        rw [← here, ← Action.enablesBind]
        exact set p chosen
  toggled index on made := by
    -- A search sets nothing, so what is set is set after it.
    have late : Call.enable index on ∈ tail := by
      simp only [List.mem_cons, reduceCtorEq, false_or] at made
      refine (List.mem_append.mp made).resolve_left fun early => ?_
      cases (reads _ early).2
    obtain ⟨p, chosen, rfl⟩ := sets index on late
    rcases soughtFinds sought with ⟨none, _⟩ | ⟨k, q, same, first, place⟩
    · cases none.symm.trans chosen
    · rw [Option.some.inj (chosen.symm.trans same), place, Nat.zero_add]
      obtain ⟨item, found⟩ := firstReadable first
      exact ⟨c, item, known, first, found⟩

end Consumed

namespace Machine
variable (w : Machine)

theorem toggleConsumed (reached : Prop) (r : Request) (s : Ahead) : Consumed w reached r
    (Trace.calls ((w.netConfig.toggle r.infId r.token r.action.enables).run s).trace) := by
  by_cases listed : ∃ c, w.component r.infId = some c ∧ c.enumerable = true
  · obtain ⟨c, known, opened⟩ := listed
    have below := w.pathsBelowOpened known opened s
    have sought := w.pathsFromSought r.token 0 c.paths s
    obtain ⟨s', search⟩ :=
      findPathTakes Effect.call? (fun _ => rfl) w.pathToken r.token (w.pathsFrom 0 c.paths) s
    have reads := Act.onlyCalls
      (findPathOnly w.pathTokenReads r.token (w.pathsFromRead 0 c.paths)) s
    rw [Trace.calls, search.seen] at reads
    generalize finds r.token ((w.pathsFrom 0 c.paths).given w.pathToken s) = found
      at sought search
    cases found with
    | none =>
      have missed : Act.Yields Effect.call?
          (w.netConfig.toggle r.infId r.token r.action.enables) s (_ ++ (_ ++ []))
          (.error (.toggle r.action.enables s!"no binding path matches {r.token}")) s' :=
        Act.yieldsOk below (Act.yieldsOk search (Act.yieldsFail _ s'))
      rw [Trace.calls, missed.seen]
      exact soughtConsumed [] known sought reads rfl (fun _ found => by cases found)
        fun _ _ set => by cases set
    | some p =>
      obtain ⟨after, result, applies, change⟩ := w.changeYields p r.action.enables s'
      have changed : Act.Yields Effect.call?
          (w.netConfig.toggle r.infId r.token r.action.enables) s (_ ++ (_ ++ _)) result s' :=
        Act.yieldsOk below (Act.yieldsOk search change)
      rw [Trace.calls, changed.seen]
      refine soughtConsumed (_ :: after) known sought reads ?_ ?_ fun index on made => ⟨p, rfl, ?_⟩
      · rw [List.filter_eq_nil_iff]
        intro call mem
        rcases List.mem_cons.mp mem with rfl | last
        · exact Bool.false_ne_true
        · rw [applies call last]
          exact Bool.false_ne_true
      · rintro _ ⟨⟩
        exact List.mem_cons_self
      · rcases List.mem_cons.mp made with same | last
        · cases same
          rfl
        · cases applies _ last
  · have unlisted : ∀ c, w.component r.infId = some c → c.enumerable = false := fun c known =>
      Bool.not_eq_true _ |>.mp fun opened => listed ⟨c, known, opened⟩
    obtain ⟨e, refused⟩ := w.pathsBelowRefused unlisted s
    have below : Act.Yields Effect.call? (w.pathsBelow r.infId) s _ (.error e) _ :=
      ⟨refused, rfl, rfl⟩
    have stopped : Act.Yields Effect.call?
        (w.netConfig.toggle r.infId r.token r.action.enables) s _ _ _ := Act.yieldsError below
    rw [Trace.calls, stopped.seen]
    have reads := Act.onlyCalls (w.pathsBelowReads r.infId) s
    exact {
      pulled := fun _ c _ known opened => absurd (unlisted c known) (by simp [opened])
      toggled := fun index on set => by cases (reads _ set).2 }

section Reaches
variable {w : Machine} (timeout : UInt32) {policy : Sharing.Policy} {r : Request} {s : Ahead}

theorem reachedChecked (h : w.Reaches policy r s) :
    (((w.backend timeout).check policy r).run s).result = .ok () ∧
      (((w.backend timeout).check policy r).run s).state.takeObject.1.refusal? = none := by
  have created := h.created
  by_cases applies : policy.applies r.action = true
  · obtain ⟨checked, state⟩ := w.checkApplied timeout s applies
    have asked := Sharing.Policy.appliesGuard.mp applies
    obtain ⟨guarded, unshared⟩ := h.checked asked
    rw [if_pos asked] at created
    rw [state]
    exact ⟨checkedPassed checked guarded unshared, repliedObject.mpr created⟩
  · obtain ⟨passed, state⟩ := w.checkSkipped timeout s applies
    rw [if_neg fun asked => applies (Sharing.Policy.appliesGuard.mpr asked)] at created
    rw [state]
    exact ⟨passed, repliedObject.mpr created⟩

theorem reachedOpens (h : w.Reaches policy r s) :
    ((w.openSession timeout).run (((w.backend timeout).check policy r).run s).state).result =
      .ok w.netConfig := by
  obtain ⟨freed, _, acquired⟩ := w.acquireLockYields timeout
    (((w.backend timeout).check policy r).run s).state.takeObject.2
  have passed := w.lockOutcomePassed.mpr ⟨Code.belowSucceeds.mpr h.locks, h.unheld⟩
  rw [passed] at acquired
  exact (w.openSessionOpens (reachedChecked timeout h).2 (Code.belowSucceeds.mpr h.casts) acquired
    (Code.belowSucceeds.mpr h.begins)).result

end Reaches

theorem executeAround (timeout : UInt32) (policy : Sharing.Policy) (r : Request) (s : Ahead) :
    ∃ before work after, Trace.calls (((w.backend timeout).execute policy r).run s).trace =
        before ++ (work ++ after) ∧
      (∀ c ∈ before, c.stage ≠ .work) ∧ (∀ c ∈ after, c.stage ≠ .work) ∧
      (work = [] ∧ ¬ w.Reaches policy r s ∨ ∃ s', work =
        Trace.calls ((w.netConfig.toggle r.infId r.token r.action.enables).run s').trace) := by
  have check : Act.Yields Effect.call? ((w.backend timeout).check policy r) s _ _ _ :=
    Act.yieldsRun _ s
  have guards : ∀ c ∈ Trace.calls (((w.backend timeout).check policy r).run s).trace,
      c.stage ≠ .work := stageElse (Act.onlyCalls (w.checkGuards timeout policy r) s) (by decide)
  match answer : (((w.backend timeout).check policy r).run s).result with
  | .error e =>
    rw [answer] at check
    have refused : Act.Yields Effect.call? ((w.backend timeout).execute policy r) s _ _ _ :=
      Act.yieldsError check
    refine ⟨_, [], [], ?_, guards, by simp, .inl ⟨rfl, fun reaches => ?_⟩⟩
    · rw [Trace.calls, refused.seen, List.append_nil, List.append_nil]
      rfl
    · cases answer.symm.trans (reachedChecked timeout reaches).1
  | .ok () =>
    rw [answer] at check
    obtain ⟨calls, result, s', opening, run⟩ :=
      w.openSessionOpening timeout (((w.backend timeout).check policy r).run s).state
    have session : Act.Yields Effect.call? (w.openSession timeout) _ calls
      (result.map fun _ => w.netConfig) s' := run w.ending w.release
    have early := List.forall_mem_append.mpr ⟨guards, openingIdle opening⟩
    cases result with
    | error e =>
      have unopened : Act.Yields Effect.call? ((w.backend timeout).execute policy r) s _ _ _ :=
        Act.yieldsOk check (Act.yieldsError session)
      refine ⟨_, [], [], ?_, early, by simp, .inl ⟨rfl, fun reaches => ?_⟩⟩
      · rw [Trace.calls, unopened.seen, List.append_nil, List.append_nil]
        rfl
      · cases session.result.symm.trans (reachedOpens timeout reaches)
    | ok =>
      have worked : Act.Yields Effect.call? ((w.backend timeout).execute policy r) s _ _ _ :=
        Act.yieldsOk check (Act.yieldsOk session
          (Act.yieldsClosing (Act.yieldsRun _ s') (w.closeSessionYields _)))
      refine ⟨_, _, [.endSession, .releaseLock], ?_, early, by simp [Call.stage], .inr ⟨s', rfl⟩⟩
      rw [Trace.calls, worked.seen, List.append_assoc]
      rfl

theorem executeConsumed (timeout : UInt32) (policy : Sharing.Policy) (r : Request) (s : Ahead) :
    Consumed w (w.Reaches policy r s) r
      (Trace.calls (((w.backend timeout).execute policy r).run s).trace) := by
  obtain ⟨before, work, after, split, idle, done, worked⟩ := w.executeAround timeout policy r s
  rw [split]
  refine consumedAmid idle done ?_
  rcases worked with ⟨rfl, unreached⟩ | ⟨s', rfl⟩
  · exact consumedNone unreached
  · exact w.toggleConsumed _ r s'

end Machine

/-- A listing gives the paths before the first answer that is not plain success with a path, and a
failure after them if that answer is one; however often it is asked, it calls for no answer after
that one. A request that reaches the configuration sets the first path with its token, and calls for
no path after that one. -/
theorem listingConsumed (w : Machine) (timeout : UInt32) (policy : Sharing.Policy) (r : Request)
    (s : Ahead) :
    (∀ infId c, w.component infId = some c → c.enumerable = true → ∃ pulls, ∀ s,
      Act.Yields Effect.call? (w.pathsBelow infId) s
        [.findComponent infId, .asBindings, .enumeratePaths] (.ok pulls) s ∧
      ∀ n, Act.Yields Effect.call? (Enumeration.draw n pulls) s
        ((List.range (min n (Machine.asked c.paths))).map .nextPath)
        (.ok ((List.range n).map ((w.yielded 0 c.paths)[·]?))) s) ∧
      Consumed w (w.Reaches policy r s) r
        (Trace.calls (((w.backend timeout).execute policy r).run s).trace) := by
  refine ⟨fun infId c known opened => ⟨w.pathsFrom 0 c.paths, fun s =>
    ⟨w.pathsBelowOpened known opened s, fun n => ?_⟩⟩, w.executeConsumed timeout policy r s⟩
  rw [List.range_eq_range']
  exact w.pathsFromDrawn n 0 c.paths s

theorem thirdPathTaken :
    let units := fun (text : String) => text.toList.map fun c => c.toNat.toUInt16
    let paths : List PathItem := [{ token := none }, { token := some (units "b->other") },
      { token := some (units "b->dev") }, { token := some (units "b->dev") }]
    let w : Machine := { component := fun _ => some { paths } }
    let calls := Trace.calls
      (((w.backend 5000).execute .always ⟨"b", "dev", .unbind⟩).run {}).trace
    ∃ before after, calls = before ++ .pathToken 2 :: after ∧
      before.filter Call.pulls = [.nextPath 0, .nextPath 1, .nextPath 2] ∧
      after.filter Call.pulls = [] ∧ .enable 2 false ∈ after := by
  intro units paths w calls
  have unguarded : w.Checked "dev" {} (.ok ()) :=
    Machine.unsharedPasses rfl rfl .nil (.inl rfl) fun item decides => by
      obtain ⟨_, meant, _⟩ := Machine.decidingFound .nil decides
      cases meant
  have reaches : w.Reaches .always ⟨"b", "dev", .unbind⟩ {} := {
    checked := fun _ => by
      cases unguarded with
      | passed guarded unshared => exact ⟨guarded, unshared⟩
    created := by decide
    casts := by decide
    locks := by decide
    unheld := rfl
    begins := by decide }
  exact (listingConsumed w 5000 .always ⟨"b", "dev", .unbind⟩ {}).2.pulled reaches { paths } 2 rfl
    rfl (by decide)

end VmBridge.Windows
