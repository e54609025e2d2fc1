import VmBridge.Proofs.Windows.ConnectionListing
import VmBridge.Proofs.Windows.Toggling
/-! What a check for sharing makes of the answers of the system. It fails in two ways: something
that it had to read could not be read, or the connection that decides is shared. A GUID or an
adapter key that cannot be read is passed over. -/
namespace VmBridge.Windows
open Binding
open Sharing (Adapter)

def Reply.gives : Reply → Bool
  | code c => c < 0x80000000
  | nothing => false

theorem repliedObject {r : Reply} : r.refusal? = none ↔ r.gives = true := by
  cases r with
  | nothing => simp [Reply.refusal?, Reply.gives]
  | code c => simp [Reply.refusal?, Reply.gives, Code.fails]

theorem repliedNone {r : Reply} {code : Code} (refused : r.refusal? = some code) :
    r.gives = false := by
  rw [Bool.eq_false_iff, ne_eq, ← repliedObject, refused]
  exact Option.some_ne_none code

namespace ConnectionItem

def guidText? (item : ConnectionItem) : Option String :=
  match item.properties.gives, item.guid with
  | true, .ok units => some (Text.Utf16.lossy units)
  | _, _ => none

def isOf (instanceId : String) (item : ConnectionItem) : Bool :=
  item.guidText?.any (Sharing.sameGuid · instanceId)

def shared? (item : ConnectionItem) : Option Bool :=
  if item.settings.gives = true ∧ item.sharingCode < 0x80000000 then some (item.sharing ≠ 0)
  else none

end ConnectionItem

theorem givenItems (index : Nat) (items : List ConnectionItem) :
    (connectionsGiven index items).map Connection.item = items.takeWhile ConnectionItem.gives := by
  rw [connectionsGiven, List.map_map]
  exact List.zipIdx_map_fst index _

namespace Machine
variable (w : Machine)

/-- Of the connections that are listed, the first with a readable GUID of the device's adapter. -/
inductive Deciding (deviceId : String) : ConnectionItem → Prop where
  | first {adapters instanceId item} (stand : Stand w.registry.keys adapters)
      (meant : Sharing.matchAdapter adapters deviceId = some instanceId)
      (listed : ∀ code, ¬ Unlisted w code)
      (found : (w.connections.takeWhile ConnectionItem.gives).find?
        (ConnectionItem.isOf instanceId) = some item) : Deciding deviceId item

structure FoundShared (deviceId : String) (s : Ahead) : Prop where
  created : (s.objects.headD (.code 0)).gives = true
  opened : w.registry.refusal = none
  shared : ∃ item, w.Deciding deviceId item ∧ item.shared? = some true

inductive Unguarded (deviceId : String) (s : Ahead) : Prop where
  | manager (refused : (s.objects.headD (.code 0)).gives = false)
  | adapters {reason} (refused : w.registry.refusal = some reason)
  | connections {adapters instanceId code} (stand : Stand w.registry.keys adapters)
      (meant : Sharing.matchAdapter adapters deviceId = some instanceId)
      (unlisted : Unlisted w code)
  | sharing {item} (decides : w.Deciding deviceId item) (unread : item.shared? = none)

inductive Checked (deviceId : String) (s : Ahead) : Except Fault Unit → Prop where
  | refused {e} (unguarded : w.Unguarded deviceId s) (final : e.IsFinal (-1)) :
      Checked deviceId s (.error e)
  | shared (found : w.FoundShared deviceId s) :
      Checked deviceId s (.error (.sharedConnection deviceId))
  | passed (guarded : ¬ w.Unguarded deviceId s) (unshared : ¬ w.FoundShared deviceId s) :
      Checked deviceId s (.ok ())

section Verdict
variable {w : Machine} {deviceId : String} {s : Ahead} {adapters : List Adapter}
variable {instanceId : String} {item : ConnectionItem} {e : Fault}

theorem standOnce {keys : List RegistryKey} {others : List Adapter} (h : Stand keys adapters)
    (h' : Stand keys others) : adapters = others := (standAdapters h).symm.trans (standAdapters h')

theorem decidingFound (stand : Stand w.registry.keys adapters) (h : w.Deciding deviceId item) :
    ∃ instanceId, Sharing.matchAdapter adapters deviceId = some instanceId ∧
      (w.connections.takeWhile ConnectionItem.gives).find? (ConnectionItem.isOf instanceId) =
        some item := by
  cases h with
  | first stand' meant _ found =>
    rw [standOnce stand stand']
    exact ⟨_, meant, found⟩

theorem decidingOnce {other : ConnectionItem} (h : w.Deciding deviceId item)
    (h' : w.Deciding deviceId other) : item = other := by
  cases h with
  | first stand meant _ found =>
    obtain ⟨instanceId, meant', found'⟩ := decidingFound stand h'
    rw [meant] at meant'
    cases meant'
    rw [found] at found'
    exact Option.some.inj found'

theorem unsharedPasses (created : (s.objects.headD (.code 0)).gives = true)
    (opened : w.registry.refusal = none) (stand : Stand w.registry.keys adapters)
    (listed : Sharing.matchAdapter adapters deviceId = none ∨ ∀ code, ¬ Unlisted w code)
    (unshared : ∀ item, w.Deciding deviceId item → item.shared? = some false) :
    w.Checked deviceId s (.ok ()) := by
  refine .passed (fun unguarded => ?_) fun found => ?_
  · cases unguarded with
    | manager refused =>
      rw [created] at refused
      cases refused
    | adapters refused =>
      rw [opened] at refused
      cases refused
    | connections stand' meant unlisted =>
      rw [standOnce stand' stand] at meant
      rcases listed with none | sound
      · rw [none] at meant
        cases meant
      · exact sound _ unlisted
    | sharing decides unread =>
      rw [unshared _ decides] at unread
      cases unread
  · obtain ⟨item, decides, shared⟩ := found.shared
    rw [unshared item decides] at shared
    cases shared

theorem checkedPassed {result : Except Fault Unit} (h : w.Checked deviceId s result)
    (guarded : ¬ w.Unguarded deviceId s) (unshared : ¬ w.FoundShared deviceId s) :
    result = .ok () := by
  cases h with
  | refused unguarded => exact absurd unguarded guarded
  | shared found => exact absurd found unshared
  | passed => rfl

end Verdict

theorem sharingFinal (code : Code) : (w.sharingFault code).IsFinal (-1) := ⟨rfl, rfl⟩

theorem connectionGuidYields (c : Connection) (s : Ahead) : ∃ calls answer,
    Act.Yields Effect.call? (w.connectionGuid c) s calls answer s ∧
      answer.toOption = c.item.guidText? := by
  have properties := w.demandObjectYields .sharing c.item.properties s
  unfold connectionGuid ConnectionItem.guidText?
  cases refused : c.item.properties.refusal? with
  | some code =>
    rw [refused] at properties
    rw [repliedNone refused]
    exact ⟨_, _, Act.yieldsOk (Act.yieldsCall _ s) (Act.yieldsError properties), rfl⟩
  | none =>
    rw [refused] at properties
    rw [repliedObject.mp refused]
    cases c.item.guid with
    | error code =>
      exact ⟨_, _, Act.yieldsOk (Act.yieldsCall _ s) (Act.yieldsOk properties
        (Act.yieldsOk (Act.yieldsCall _ s) (Act.yieldsFail _ s))), rfl⟩
    | ok units =>
      exact ⟨_, _, Act.yieldsOk (Act.yieldsCall _ s) (Act.yieldsOk properties
        (Act.yieldsOk (Act.yieldsCall _ s) (Act.yieldsPure _ s))), rfl⟩

theorem sharingEnabledYields (c : Connection) (s : Ahead) : ∃ calls answer,
    Act.Yields Effect.call? (w.sharingEnabled c) s calls answer s ∧
      answer.toOption = c.item.shared? ∧ ∀ e, answer = .error e → e.IsFinal (-1) := by
  have settings := w.demandObjectYields .sharing c.item.settings s
  have told := w.demandYields .sharing c.item.sharingCode s
  unfold sharingEnabled ConnectionItem.shared?
  cases refused : c.item.settings.refusal? with
  | some code =>
    rw [refused] at settings
    refine ⟨_, _, Act.yieldsOk (Act.yieldsCall _ s) (Act.yieldsError settings), ?_, ?_⟩
    · simp [repliedNone refused, Except.toOption]
    · rintro _ ⟨⟩
      exact w.sharingFinal code
  | none =>
    rw [refused] at settings
    have given := repliedObject.mp refused
    cases fails : c.item.sharingCode.fails with
    | true =>
      rw [if_pos fails] at told
      refine ⟨_, _, Act.yieldsOk (Act.yieldsCall _ s) (Act.yieldsOk settings
        (Act.yieldsOk (Act.yieldsCall _ s) (Act.yieldsError told))), ?_, ?_⟩
      · have above : ¬ c.item.sharingCode < 0x80000000 := by simp [← Code.belowSucceeds, fails]
        simp [above, Except.toOption]
      · rintro _ ⟨⟩
        exact w.sharingFinal _
    | false =>
      rw [if_neg (by simp [fails])] at told
      refine ⟨_, _, Act.yieldsOk (Act.yieldsCall _ s) (Act.yieldsOk settings
        (Act.yieldsOk (Act.yieldsCall _ s) (Act.yieldsOk told (Act.yieldsPure _ s)))), ?_, ?_⟩
      · have below := Code.belowSucceeds.mp fails
        simp [given, below, Except.toOption, bne, BEq.beq]
      · rintro _ ⟨⟩

theorem findConnectionYields (instanceId : String) (connections : List Connection) (s : Ahead) :
    ∃ calls found, Act.Yields Effect.call? (w.inspector.findConnection instanceId connections) s
        calls (.ok found) s ∧
      found.map Prod.fst = connections.find? fun c => c.item.isOf instanceId := by
  induction connections with
  | nil => exact ⟨_, _, Act.yieldsPure none s, rfl⟩
  | cons c rest ih =>
    obtain ⟨before, answer, read, told⟩ := w.connectionGuidYields c s
    obtain ⟨after, found, later, first⟩ := ih
    have asked := Act.yieldsAttempt read
    unfold Sharing.Inspector.findConnection
    cases answer with
    | error e =>
      have other : c.item.isOf instanceId = false := by rw [ConnectionItem.isOf, ← told]; rfl
      rw [List.find?_cons_of_neg (by simp [other])]
      exact ⟨_, found, Act.yieldsOk asked (Act.yieldsOk (Act.yieldsQuiet rfl s) later), first⟩
    | ok guid =>
      have same : c.item.isOf instanceId = Sharing.sameGuid guid instanceId := by
        rw [ConnectionItem.isOf, ← told]
        rfl
      cases matched : Sharing.sameGuid guid instanceId with
      | true =>
        rw [List.find?_cons_of_pos (by rw [same, matched])]
        refine ⟨before ++ [], some (c, guid), Act.yieldsOk asked ?_, rfl⟩
        simp only [matched, if_true]
        exact Act.yieldsPure _ s
      | false =>
        rw [List.find?_cons_of_neg (by simp [same, matched])]
        refine ⟨before ++ after, found, Act.yieldsOk asked ?_, first⟩
        simp only [matched, Bool.false_eq_true, if_false]
        exact later

theorem decidedChecked {deviceId : String} {s : Ahead} {c : Connection}
    (created : (s.objects.headD (.code 0)).gives = true) (opened : w.registry.refusal = none)
    {adapters : List Adapter} (stand : Stand w.registry.keys adapters)
    (listed : ∀ code, ¬ Unlisted w code) (decides : w.Deciding deviceId c.item)
    (message : String) (s' : Ahead) : ∃ calls result, Act.Yields Effect.call? (do
        let shared ← w.sharingEnabled c
        if shared then
          Act.log .warn .sharing message
          Act.fail (.sharedConnection deviceId)
        else pure ()) s' calls result s' ∧ w.Checked deviceId s result := by
  obtain ⟨calls, answer, read, told, final⟩ := w.sharingEnabledYields c s'
  match answer with
  | .error e =>
    exact ⟨_, _, Act.yieldsError read, .refused (.sharing decides told.symm) (final e rfl)⟩
  | .ok true =>
    exact ⟨_, _, Act.yieldsOk read (Act.yieldsOk (Act.yieldsQuiet rfl s') (Act.yieldsFail _ s')),
      .shared ⟨created, opened, _, decides, told.symm⟩⟩
  | .ok false =>
    refine ⟨_, _, Act.yieldsOk read (Act.yieldsPure () s'), ?_⟩
    exact unsharedPasses created opened stand (.inr listed) fun item decides' =>
      decidingOnce decides decides' ▸ told.symm

theorem connectionsChecked {deviceId instanceId : String} {s : Ahead}
    (created : (s.objects.headD (.code 0)).gives = true) (opened : w.registry.refusal = none)
    {adapters : List Adapter} (stand : Stand w.registry.keys adapters)
    (meant : Sharing.matchAdapter adapters deviceId = some instanceId) (s' : Ahead) :
    ∃ calls result, Act.Yields Effect.call? (w.inspector.checkConnections deviceId instanceId) s'
      calls result s' ∧ w.Checked deviceId s result := by
  obtain ⟨calls, answer, listing, listed⟩ := w.connectionListListing s'
  cases listing with
  | broken unlisted =>
    exact ⟨_, _, Act.yieldsError listed,
      .refused (.connections stand meant unlisted) (w.sharingFinal _)⟩
  | whole sound =>
    obtain ⟨reads, found, search, first⟩ :=
      w.findConnectionYields instanceId (connectionsGiven 0 w.connections) s'
    have decides : (found.map Prod.fst).map Connection.item =
        (w.connections.takeWhile ConnectionItem.gives).find? (ConnectionItem.isOf instanceId) := by
      rw [← givenItems 0, List.find?_map, first]
      rfl
    cases found with
    | none =>
      refine ⟨_, _, Act.yieldsOk listed (Act.yieldsOk search (Act.yieldsQuiet rfl s')), ?_⟩
      refine unsharedPasses created opened stand (.inr sound) fun item decided => ?_
      obtain ⟨instanceId', meant', found'⟩ := decidingFound stand decided
      rw [meant] at meant'
      cases meant'
      rw [← decides] at found'
      cases found'
    | some known =>
      obtain ⟨last, result, run, checked⟩ := w.decidedChecked created opened stand sound
        (.first stand meant sound decides.symm) _ s'
      exact ⟨_, result, Act.yieldsOk listed (Act.yieldsOk search run), checked⟩

theorem ensureNotSharedChecked (deviceId : String) (s : Ahead) : ∃ calls result,
    Act.Yields Effect.call? (w.ensureNotShared deviceId) s calls result s.takeObject.2 ∧
      w.Checked deviceId s result := by
  have manager := w.createObjectYields .sharing .sharingManager s
  obtain ⟨adapters, stand⟩ := keysStand w.registry.keys
  cases unmade : s.takeObject.1.refusal? with
  | some code =>
    rw [unmade] at manager
    exact ⟨_, _, Act.yieldsError manager, .refused (.manager (repliedNone unmade)) ⟨rfl, rfl⟩⟩
  | none =>
  rw [unmade] at manager
  have created : (s.objects.headD (.code 0)).gives = true := repliedObject.mp unmade
  cases refused : w.registry.refusal with
  | some reason =>
    exact ⟨_, _, Act.yieldsOk manager
      (Act.yieldsError (w.instanceIdUnopened refused deviceId s.takeObject.2)),
      .refused (.adapters refused) ⟨rfl, rfl⟩⟩
  | none =>
  have known := w.instanceIdYields refused deviceId s.takeObject.2
  rw [Registry.adapters, standAdapters stand] at known
  cases meant : Sharing.matchAdapter adapters deviceId with
  | none =>
    rw [meant] at known
    refine ⟨_, _, Act.yieldsOk manager (Act.yieldsOk known (Act.yieldsQuiet rfl _)), ?_⟩
    refine unsharedPasses created refused stand (.inl meant) fun item decides => ?_
    obtain ⟨_, meant', _⟩ := decidingFound stand decides
    rw [meant] at meant'
    cases meant'
  | some instanceId =>
    rw [meant] at known
    obtain ⟨calls, result, run, checked⟩ :=
      w.connectionsChecked created refused stand meant s.takeObject.2
    exact ⟨_, result, Act.yieldsOk manager (Act.yieldsOk known
      (Act.yieldsOk (Act.yieldsQuiet rfl _) run)), checked⟩

section Check
variable (timeout : UInt32) {policy : Sharing.Policy} {r : Request} (s : Ahead)

theorem checkApplied (applies : policy.applies r.action = true) :
    w.Checked r.deviceId s (((w.backend timeout).check policy r).run s).result ∧
      (((w.backend timeout).check policy r).run s).state = s.takeObject.2 := by
  obtain ⟨calls, result, run, checked⟩ := w.ensureNotSharedChecked r.deviceId s
  rw [Backend.check, if_pos applies]
  exact ⟨run.result ▸ checked, run.state⟩

theorem checkSkipped (skips : ¬ policy.applies r.action = true) :
    (((w.backend timeout).check policy r).run s).result = .ok () ∧
      (((w.backend timeout).check policy r).run s).state = s := by
  rw [Backend.check, if_neg skips]
  exact ⟨rfl, rfl⟩

end Check
end Machine
end VmBridge.Windows
