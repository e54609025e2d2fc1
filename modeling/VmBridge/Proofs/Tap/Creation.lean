import VmBridge.Proofs.Tap.Steps
import VmBridge.Verb.LinuxHost
/-! Making a TAP device. Everything that can be settled without the driver is settled first;
then the steps are taken in order up to the first that fails, and the device is told of only
if all were granted. -/
namespace VmBridge
open Text (Bytes)

namespace Owner

def Directory.id? (directory : Directory) (name : String) : Option Id :=
  if hasNul name then none
  else
    match directory name with
    | .found id => some id
    | .absent | .failed _ => none

def Directory.resolve? (directory : Directory) (name : String) : Option Id :=
  (directory.id? name).or (numericId? name)

namespace Accounts

def ownerId (a : Accounts) : Option String → Except Fault Id
  | none => .ok a.effective
  | some name => (a.users.resolve? name).elim (.error (.unknownUser name)) .ok

def groupId (a : Accounts) : Option String → Except Fault (Option Id)
  | none => .ok none
  | some name => (a.groups.resolve? name).elim (.error (.unknownGroup name)) (.ok ∘ some)

end Accounts

variable {κ σ : Type}

theorem searchYields (title : String) (directory : Directory) (name : String) (s : σ) :
    Act.Yields Effect.unlogged? (search title directory name : Act κ σ (Option Id)) s []
      (.ok (directory.id? name)) s := by
  unfold search Directory.id?
  split
  · exact Act.yieldsPure none s
  · cases directory name with
    | found id => exact Act.yieldsPure (some id) s
    | absent => exact Act.yieldsPure none s
    | failed errno => exact Act.yieldsOk (Act.yieldsQuiet rfl s) (Act.yieldsPure none s)

theorem idOfYields (title : String) (directory : Directory) (name : String) (s : σ) :
    Act.Yields Effect.unlogged? (idOf (search title directory) name : Act κ σ (Option Id)) s []
      (.ok (directory.resolve? name)) s := by
  have found := searchYields (κ := κ) title directory name s
  unfold Directory.resolve?
  cases answer : directory.id? name with
  | none =>
    rw [answer] at found
    exact Act.yieldsOk found (Act.yieldsPure _ s)
  | some id =>
    rw [answer] at found
    exact Act.yieldsOk found (Act.yieldsPure _ s)

theorem ownerYields (a : Accounts) (name : Option String) (s : σ) :
    Act.Yields Effect.unlogged? (a.owner name : Act κ σ Id) s [] (a.ownerId name) s := by
  cases name with
  | none => exact Act.yieldsPure a.effective s
  | some name =>
    have found := idOfYields (κ := κ) "user" a.users name s
    simp only [Accounts.ownerId]
    cases answer : a.users.resolve? name with
    | none =>
      rw [answer] at found
      exact Act.yieldsOk found (Act.yieldsFail (.unknownUser name) s)
    | some id =>
      rw [answer] at found
      exact Act.yieldsOk found (Act.yieldsPure id s)

theorem groupYields (a : Accounts) (name : Option String) (s : σ) :
    Act.Yields Effect.unlogged? (a.group? name : Act κ σ (Option Id)) s [] (a.groupId name) s := by
  cases name with
  | none => exact Act.yieldsPure none s
  | some name =>
    have found := idOfYields (κ := κ) "group" a.groups name s
    simp only [Accounts.groupId]
    cases answer : a.groups.resolve? name with
    | none =>
      rw [answer] at found
      have named : Act.Yields Effect.unlogged? (a.group name : Act κ σ Id) s []
          (.error (.unknownGroup name)) s :=
        Act.yieldsOk found (Act.yieldsFail (.unknownGroup name) s)
      exact Act.yieldsError named
    | some id =>
      rw [answer] at found
      have named : Act.Yields Effect.unlogged? (a.group name : Act κ σ Id) s [] (.ok id) s :=
        Act.yieldsOk found (Act.yieldsPure id s)
      exact Act.yieldsOk named (Act.yieldsPure (some id) s)

end Owner

structure TapPlan where
  owner : Owner.Id
  group : Option Owner.Id
  name : Bytes

def TapPlan.steps (p : TapPlan) : List (TapStep × Tap.Call) :=
  [(.attach, .attachTo p.name), (.owner, .owner p.owner)] ++
    (p.group.map fun id => (TapStep.group, Tap.Call.group id)).toList ++
    [(.persist, .persist true)]

def TapPlan.line (p : TapPlan) (name : String) : String :=
  "Set '" ++ name ++ "' persistent and owned by uid " ++ toString p.owner ++
    (match p.group with
      | some group => " gid " ++ toString group
      | none => "") ++ "\n"

theorem TapPlan.stepsCreation (p : TapPlan) : p.steps =
    (.attach, .attachTo p.name) ::
      (Tap.creation p.owner p.group).map fun x => (x.step, x.call) := by
  unfold TapPlan.steps Tap.creation
  cases p.group <;> rfl

def TapPlan.front (p : TapPlan) : List Tap.Call :=
  .attachTo p.name :: .owner p.owner :: (p.group.map Tap.Call.group).toList

theorem TapPlan.callsFront (p : TapPlan) :
    p.steps.map Prod.snd = p.front ++ [.persist true] := by
  unfold TapPlan.steps TapPlan.front
  cases p.group <;> rfl

theorem TapPlan.frontUnpersisted (p : TapPlan) : .persist true ∉ p.front := by
  unfold TapPlan.front
  have owner : Tap.persistCode ≠ Tap.ownerCode := by decide
  have group : Tap.persistCode ≠ Tap.groupCode := by decide
  cases p.group <;>
    simp [Tap.Call.persist, Tap.Call.owner, Tap.Call.group, Tap.Call.attachTo, owner, group]

namespace Linux
variable {κ σ : Type}

theorem numberOneLine (id : UInt32) : '\n' ∉ (toString id).toList := by
  intro mem
  have digit : '\n' ∈ Nat.toDigits 10 id.toNat := by simpa [toString] using mem
  simpa using Nat.isDigit_of_mem_toDigits (by decide) (by decide) digit

theorem nameOneLine {name : String} {bytes : Bytes} (h : Tap.nameBytes name = .ok bytes) :
    '\n' ∉ name.toList := by
  intro mem
  have forbidden : name.toList.any Tap.isForbidden = true :=
    List.any_eq_true.mpr ⟨'\n', mem, by decide⟩
  simp only [Tap.nameBytes, if_pos forbidden] at h
  split at h <;> cases h

theorem ownedLineText (name : String) (p : TapPlan) :
    ownedLine name p.owner p.group = p.line name := by
  unfold ownedLine TapPlan.line
  cases p.group with
  | none => rw [String.append_empty]; rfl
  | some group => simp only [String.append_assoc]; rfl

theorem lineOnce {name : String} (plain : '\n' ∉ name.toList) (p : TapPlan) :
    ∃ text, p.line name = text ++ "\n" ∧ '\n' ∉ text.toList := by
  refine ⟨_, rfl, ?_⟩
  have owner := numberOneLine p.owner
  cases p.group with
  | none =>
    simp only [String.toList_append, List.mem_append, not_or]
    exact ⟨⟨⟨⟨by decide, plain⟩, by decide⟩, owner⟩, by decide⟩
  | some group =>
    simp only [String.toList_append, List.mem_append, not_or]
    exact ⟨⟨⟨⟨by decide, plain⟩, by decide⟩, owner⟩, by decide, numberOneLine group⟩

def openFault? (l : Linux κ σ) : Option Fault :=
  (l.driver.openDevice l.controlDevice).map (.tapOpen l.controlDevice)

def planned (l : Linux κ σ) (r : TapRequest) : Except Fault TapPlan := do
  let owner ← l.accounts.ownerId r.user
  let group ← l.accounts.groupId r.group
  let name ← Tap.nameBytes r.name
  pure ⟨owner, group, name⟩

def settle (l : Linux κ σ) (r : TapRequest) : Except Fault TapPlan := do
  let plan ← l.planned r
  l.openFault?.elim (.ok plan) .error

def opening (l : Linux κ σ) (r : TapRequest) : List (Effect κ) :=
  match l.planned r with
  | .ok _ => [l.driver.opened l.controlDevice]
  | .error _ => []

inductive Creation (l : Linux κ σ) (r : TapRequest) (p : TapPlan) (s : σ) :
    List Tap.Call → Ran κ σ Unit → Prop where
  | made {s'} (granted : Tap.Granted l.driver s (p.steps.map Prod.snd) s') :
      Creation l r p s (p.steps.map Prod.snd)
        ⟨.ok (), s', l.driver.opened l.controlDevice :: (l.driver.asked (p.steps.map Prod.snd) ++
          [.out (Text.Utf8.encode (p.line r.name))])⟩
  | stopped {done step call rest before} (split : p.steps = done ++ (step, call) :: rest)
      (granted : Tap.Granted l.driver s (done.map Prod.snd) before)
      (refuses : (l.driver.request call before).1 ≠ 0) :
      Creation l r p s (done.map Prod.snd ++ [call])
        ⟨.error (.tapSetup r.name step (done.map Prod.fst)
          (.os (Errno.reported (l.driver.request call before).1))),
          (l.driver.request call before).2,
          l.driver.opened l.controlDevice :: l.driver.asked (done.map Prod.snd ++ [call])⟩

structure Creates (l : Linux κ σ) (r : TapRequest) (s : σ) (calls : List Tap.Call)
    (ran : Ran κ σ Unit) : Prop where
  sent : Trace.calls ran.trace =
    Trace.calls (l.opening r) ++ calls.map fun call => l.driver.recorded (.request call)
  unsettled : ∀ e, l.settle r = .error e → calls = [] ∧ ran.unlogged = ⟨.error e, s, l.opening r⟩
  stepwise : ∀ p, l.settle r = .ok p → Creation l r p s calls ran.unlogged
  succeeds : ran.result = .ok () ↔
    ∃ p s', l.settle r = .ok p ∧ Tap.Granted l.driver s (p.steps.map Prod.snd) s'
  persistsLast : .persist true ∈ calls →
    ∃ p s', l.settle r = .ok p ∧ Tap.Granted l.driver s p.front s'
  ownerSent : ∀ p, l.settle r = .ok p →
    ∃ id, Tap.Call.owner p.owner = .setInt Tap.ownerCode id ∧ id.toInt % 0x100000000 = p.owner.toNat
  groupSent : ∀ p, l.settle r = .ok p → ∀ group ∈ p.group,
    ∃ id, Tap.Call.group group = .setInt Tap.groupCode id ∧ id.toInt % 0x100000000 = group.toNat
  oneLine : ∀ p, l.settle r = .ok p →
    ∃ text, p.line r.name = text ++ "\n" ∧ '\n' ∉ text.toList

theorem createStepped (l : Linux κ σ) (r : TapRequest) (p : TapPlan) (s : σ)
    (named : Tap.nameBytes r.name = .ok p.name) (opens : l.openFault? = none) :
    ∃ calls result s', Act.Yields Effect.unlogged?
        (Tap.createPersistent l.driver l.controlDevice r.name p.owner p.group) s
        (l.driver.opened l.controlDevice :: l.driver.asked calls) (result.map fun _ => ()) s' ∧
      Tap.Stepped l.driver r.name [] p.steps s calls result s' := by
  rw [p.stepsCreation]
  exact Tap.attachedStepped l.driver l.controlDevice s (Tap.creation p.owner p.group) named
    (Option.map_eq_none_iff.mp opens)

theorem plannedSource {l : Linux κ σ} {r : TapRequest} {p : TapPlan} (planned : l.planned r = .ok p) :
    l.accounts.ownerId r.user = .ok p.owner ∧ l.accounts.groupId r.group = .ok p.group ∧
      Tap.nameBytes r.name = .ok p.name := by
  unfold Linux.planned at planned
  cases owner : l.accounts.ownerId r.user with
  | error e => rw [owner] at planned; cases planned
  | ok uid =>
    cases group : l.accounts.groupId r.group with
    | error e => rw [owner, group] at planned; cases planned
    | ok gid =>
      cases named : Tap.nameBytes r.name with
      | error e => rw [owner, group, named] at planned; cases planned
      | ok bytes =>
        rw [owner, group, named] at planned
        cases planned
        exact ⟨rfl, rfl, rfl⟩

theorem settleSource {l : Linux κ σ} {r : TapRequest} {p : TapPlan} (settled : l.settle r = .ok p) :
    l.planned r = .ok p ∧ l.openFault? = none := by
  unfold settle at settled
  cases planned : l.planned r with
  | error e => rw [planned] at settled; cases settled
  | ok plan =>
    rw [planned] at settled
    cases opens : l.openFault? with
    | some e => rw [opens] at settled; cases settled
    | none =>
      rw [opens] at settled
      cases settled
      exact ⟨rfl, rfl⟩

theorem makeTapUnplanned (l : Linux κ σ) (r : TapRequest) {e : Fault} (s : σ)
    (unplanned : l.planned r = .error e) :
    Act.Yields Effect.unlogged? (l.makeTap r) s [] (.error e) s := by
  have first := Owner.ownerYields (κ := κ) l.accounts r.user s
  have second := Owner.groupYields (κ := κ) l.accounts r.group s
  unfold planned at unplanned
  cases owner : l.accounts.ownerId r.user with
  | error e' =>
    rw [owner] at first unplanned
    cases unplanned
    exact Act.yieldsError first
  | ok uid =>
    rw [owner] at first unplanned
    cases group : l.accounts.groupId r.group with
    | error e' =>
      rw [group] at second unplanned
      cases unplanned
      exact Act.yieldsOk first (Act.yieldsError second)
    | ok gid =>
      rw [group] at second unplanned
      cases named : Tap.nameBytes r.name with
      | error e' =>
        rw [named] at unplanned
        cases unplanned
        exact Act.yieldsOk first (Act.yieldsOk second (Act.yieldsError
          (Act.yieldsError (Tap.attachUnnamed l.driver l.controlDevice s named))))
      | ok bytes =>
        rw [named] at unplanned
        cases unplanned

theorem makeTapUnopened (l : Linux κ σ) (r : TapRequest) {p : TapPlan} {e : Fault} (s : σ)
    (planned : l.planned r = .ok p) (refused : l.openFault? = some e) :
    Act.Yields Effect.unlogged? (l.makeTap r) s [l.driver.opened l.controlDevice] (.error e) s := by
  obtain ⟨owner, group, named⟩ := plannedSource planned
  have first := Owner.ownerYields (κ := κ) l.accounts r.user s
  have second := Owner.groupYields (κ := κ) l.accounts r.group s
  rw [owner] at first
  rw [group] at second
  obtain ⟨cause, unopened, rfl⟩ := Option.map_eq_some_iff.mp refused
  exact Act.yieldsOk first (Act.yieldsOk second (Act.yieldsError
    (Act.yieldsError (Tap.attachUnopened l.driver l.controlDevice s named unopened))))

theorem makeTapUnsettled (l : Linux κ σ) (r : TapRequest) {e : Fault} (s : σ)
    (unsettled : l.settle r = .error e) :
    Act.Yields Effect.unlogged? (l.makeTap r) s (l.opening r) (.error e) s := by
  unfold settle at unsettled
  unfold opening
  cases planned : l.planned r with
  | error e' =>
    rw [planned] at unsettled
    cases unsettled
    exact l.makeTapUnplanned r s planned
  | ok p =>
    rw [planned] at unsettled
    cases refused : l.openFault? with
    | none => rw [refused] at unsettled; cases unsettled
    | some e' =>
      rw [refused] at unsettled
      cases unsettled
      exact l.makeTapUnopened r s planned refused

def said (line : String) : Except Fault (List TapStep) → List (Effect κ)
  | .ok _ => [.out (Text.Utf8.encode line)]
  | .error _ => []

theorem saidUncalled (line : String) (result : Except Fault (List TapStep)) :
    Trace.calls (said line result : List (Effect κ)) = [] := by
  cases result <;> rfl

theorem saidYields {x : Act κ σ Unit} {s s' : σ} {calls : List (Effect κ)}
    {result : Except Fault (List TapStep)} (line : String)
    (h : Act.Yields Effect.unlogged? x s calls (result.map fun _ => ()) s') :
    Act.Yields Effect.unlogged? (x >>= fun _ => Act.print line) s (calls ++ said line result)
      (result.map fun _ => ()) s' := by
  cases result with
  | error e =>
    rw [said, List.append_nil]
    exact Act.yieldsError h
  | ok applied => exact Act.yieldsOk h ⟨rfl, rfl, rfl⟩

theorem makeTapSettled (l : Linux κ σ) (r : TapRequest) (p : TapPlan) (s : σ)
    (settled : l.settle r = .ok p) : ∃ calls result s',
      Act.Yields Effect.unlogged? (l.makeTap r) s
        (l.driver.opened l.controlDevice :: (l.driver.asked calls ++ said (p.line r.name) result))
        (result.map fun _ => ()) s' ∧
      Tap.Stepped l.driver r.name [] p.steps s calls result s' := by
  obtain ⟨planned, opens⟩ := settleSource settled
  obtain ⟨owner, group, named⟩ := plannedSource planned
  have first := Owner.ownerYields (κ := κ) l.accounts r.user s
  have second := Owner.groupYields (κ := κ) l.accounts r.group s
  rw [owner] at first
  rw [group] at second
  obtain ⟨calls, result, s', run, stepped⟩ := l.createStepped r p s named opens
  have whole : Act.Yields Effect.unlogged? (l.makeTap r) s
      ([] ++ ([] ++ (l.driver.opened l.controlDevice :: l.driver.asked calls ++
        said (ownedLine r.name p.owner p.group) result))) (result.map fun _ => ()) s' :=
    Act.yieldsOk first (Act.yieldsOk second (saidYields _ run))
  rw [ownedLineText] at whole
  exact ⟨calls, result, s', whole, stepped⟩

theorem createsUnsettled (l : Linux κ σ) (r : TapRequest) (s : σ) {e : Fault}
    (unsettled : l.settle r = .error e) : Creates l r s [] ((l.makeTap r).run s) := by
  have run := l.makeTapUnsettled r s unsettled
  have unplanned : ∀ p, l.settle r ≠ .ok p := fun p same => by
    rw [unsettled] at same
    cases same
  exact {
    sent := by
      rw [← Trace.callsUnlogged, Trace.unlogged, run.seen]
      exact (List.append_nil _).symm
    unsettled := fun e' same => by
      rw [unsettled] at same
      cases same
      exact ⟨rfl, Act.yieldsUnlogged run⟩
    stepwise := fun p settled => absurd settled (unplanned p)
    succeeds := by
      rw [run.result]
      exact ⟨fun same => (by cases same), fun ⟨p, _, settled, _⟩ => absurd settled (unplanned p)⟩
    persistsLast := fun asked => absurd asked List.not_mem_nil
    ownerSent := fun p settled => absurd settled (unplanned p)
    groupSent := fun p settled => absurd settled (unplanned p)
    oneLine := fun p settled => absurd settled (unplanned p) }

theorem makeTapCreation (l : Linux κ σ) (r : TapRequest) (s : σ) {p : TapPlan}
    (settled : l.settle r = .ok p) : ∃ calls,
      Creation l r p s calls ((l.makeTap r).run s).unlogged ∧
        Trace.calls ((l.makeTap r).run s).trace = l.driver.recorded (.opening l.controlDevice) ::
          calls.map fun call => l.driver.recorded (.request call) := by
  obtain ⟨calls, result, s', run, stepped⟩ := l.makeTapSettled r p s settled
  refine ⟨calls, ?_, ?_⟩
  · rw [Act.yieldsUnlogged run]
    rcases Tap.steppedEnd stepped with ⟨rfl, granted, rfl⟩ |
      ⟨done, step, call, rest, before, split, granted, refuses, rfl, rfl, rfl⟩
    · exact .made granted
    · rw [said, List.append_nil]
      exact .stopped split granted refuses
  · have made : Trace.calls (l.driver.asked calls ++ said (p.line r.name) result) = _ :=
      Trace.callsAppend _ _
    rw [Tap.callsAsked, saidUncalled, List.append_nil] at made
    rw [← Trace.callsUnlogged, Trace.unlogged, run.seen, ← made]
    rfl

section Creation
variable {l : Linux κ σ} {r : TapRequest} {p : TapPlan} {s : σ} {calls : List Tap.Call}
variable {ran : Ran κ σ Unit}

theorem creationSucceeds (h : Creation l r p s calls ran) :
    ran.result = .ok () ↔ ∃ s', Tap.Granted l.driver s (p.steps.map Prod.snd) s' := by
  cases h with
  | made granted => exact ⟨fun _ => ⟨_, granted⟩, fun _ => rfl⟩
  | stopped split granted refuses =>
    refine ⟨fun same => (by cases same), fun ⟨s', all⟩ => ?_⟩
    rw [split, List.map_append, List.map_cons] at all
    exact absurd all (Tap.refusedUngranted granted refuses)

theorem creationBegins (h : Creation l r p s calls ran) : calls <+: p.steps.map Prod.snd := by
  cases h with
  | made granted => exact List.prefix_rfl
  | @stopped done step call rest before split granted refuses =>
    exact ⟨rest.map Prod.snd, by simp [split]⟩

theorem creationReaches (h : Creation l r p s calls ran) {front rest : List Tap.Call}
    {call : Tap.Call} (split : p.steps.map Prod.snd = front ++ call :: rest) :
    front ++ [call] <+: calls ↔ ∃ s', Tap.Granted l.driver s front s' := by
  cases h with
  | made granted =>
    rw [split, Tap.grantedAppend] at granted
    obtain ⟨before, first, _⟩ := granted
    exact ⟨fun _ => ⟨before, first⟩, fun _ => ⟨rest, by simp [split]⟩⟩
  | @stopped done step last left before cut granted refuses =>
    have whole : front ++ [call] <+: p.steps.map Prod.snd := ⟨rest, by simp [split]⟩
    have sent : done.map Prod.snd ++ [last] <+: p.steps.map Prod.snd :=
      ⟨left.map Prod.snd, by simp [cut]⟩
    constructor
    · intro reached
      have short : front <+: done.map Prod.snd := by
        rcases List.prefix_concat_iff.mp reached with same | short
        · exact (List.append_inj' same rfl).1 ▸ List.prefix_rfl
        · exact (List.prefix_append front [call]).trans short
      obtain ⟨more, split⟩ := short
      rw [← split, Tap.grantedAppend] at granted
      obtain ⟨m, first, _⟩ := granted
      exact ⟨m, first⟩
    · rintro ⟨s', all⟩
      by_cases short : front.length ≤ (done.map Prod.snd).length
      · exact List.prefix_of_prefix_length_le whole sent (by simpa using short)
      · -- Past the request that was refused, nothing can have been granted.
        have past : done.map Prod.snd ++ [last] <+: front :=
          List.prefix_of_prefix_length_le sent ((List.prefix_append front [call]).trans whole)
            (by simp only [List.length_append, List.length_singleton]; omega)
        obtain ⟨more, rfl⟩ := past
        rw [List.append_assoc] at all
        exact absurd all (Tap.refusedUngranted granted refuses)

theorem creationAsks (h : Creation l r p s calls ran) {front rest : List Tap.Call}
    {call : Tap.Call} (split : p.steps.map Prod.snd = front ++ call :: rest)
    (fresh : call ∉ front) : call ∈ calls ↔ ∃ s', Tap.Granted l.driver s front s' := by
  rw [← creationReaches h split]
  exact ⟨Tap.frontAsked fresh (split ▸ creationBegins h), fun reached => reached.subset (by simp)⟩

theorem creationPersists (h : Creation l r p s calls ran) (asked : .persist true ∈ calls) :
    ∃ s', Tap.Granted l.driver s p.front s' :=
  (creationAsks h p.callsFront p.frontUnpersisted).mp asked

end Creation

theorem createsSettled (l : Linux κ σ) (r : TapRequest) (s : σ) {p : TapPlan}
    (settled : l.settle r = .ok p) : ∃ calls, Creates l r s calls ((l.makeTap r).run s) := by
  obtain ⟨calls, creation, sent⟩ := l.makeTapCreation r s settled
  have only : ∀ p', l.settle r = .ok p' → p' = p := fun p' same => by
    rw [settled] at same
    cases same
    rfl
  have opening : l.opening r = [l.driver.opened l.controlDevice] := by
    unfold opening
    rw [(settleSource settled).1]
  exact ⟨calls, {
    sent := by
      rw [opening]
      exact sent
    unsettled := fun e same => by
      rw [settled] at same
      cases same
    stepwise := fun p' same => by
      rw [only p' same]
      exact creation
    succeeds := (creationSucceeds creation).trans
      ⟨fun ⟨s', all⟩ => ⟨p, s', settled, all⟩, fun ⟨p', s', same, all⟩ =>
        ⟨s', by rwa [only p' same] at all⟩⟩
    persistsLast := fun asked =>
      have ⟨s', front⟩ := creationPersists creation asked
      ⟨p, s', settled, front⟩
    ownerSent := fun p' _ => Tap.idSent _ p'.owner
    groupSent := fun _ _ group _ => Tap.idSent _ group
    oneLine := fun p' same =>
      lineOnce (nameOneLine (plannedSource (settleSource same).1).2.2) p' }⟩

end Linux
end VmBridge
