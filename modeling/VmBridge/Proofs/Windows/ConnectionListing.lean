import VmBridge.Proofs.Windows.AdapterListing
/-! The connections that a listing gives. Until its end nothing may fail: neither an answer nor what
is made of it. A listing that breaks off gives no connection at all, and a check that gets none of
them asks nothing of those that were seen before. -/
namespace VmBridge.Windows
open Sharing (Adapter)

def Call.inspects : Call → Bool
  | properties _ | guid _ | sharingSettings _ | sharingEnabled _ => true
  | _ => false

def ConnectionItem.gives (item : ConnectionItem) : Bool := item.code = .done && item.fetched != 0

inductive Breaks (items : List ConnectionItem) : Code → Prop where
  | pull {item} (last : (items.dropWhile ConnectionItem.gives).head? = some item)
      (fails : item.code.fails = true) : Breaks items item.code
  | holder {item} (given : item ∈ items.takeWhile ConnectionItem.gives)
      (empty : item.holdsObject = false) : Breaks items .typeMismatch
  | cast {item} (given : item ∈ items.takeWhile ConnectionItem.gives)
      (fails : item.asConnection.fails = true) : Breaks items item.asConnection

inductive Unlisted (w : Machine) : Code → Prop where
  | listing {code} (refused : w.listing.refusal? = some code) : Unlisted w code
  | enumeration {code} (refused : w.enumeration.refusal? = some code) : Unlisted w code
  | variants (fails : w.asVariants.fails = true) : Unlisted w w.asVariants
  | answers {code} (breaks : Breaks w.connections code) : Unlisted w code

def connectionsGiven (index : Nat) (items : List ConnectionItem) : List Connection :=
  ((items.takeWhile ConnectionItem.gives).zipIdx index).map fun (item, i) => ⟨i, item⟩

def connectionPulls (index count : Nat) : List Call :=
  (List.range' index count).flatMap (fun i => [.nextConnection i, .asConnection i]) ++
    [.nextConnection (index + count)]

inductive Listed : Nat → List ConnectionItem → List Call → Except Code (List Connection) → Prop where
  | spent (index) : Listed index [] [.nextConnection index] (.ok [])
  | ended {item rest} (index) (ends : item.gives = false) (succeeds : item.code.fails = false) :
      Listed index (item :: rest) [.nextConnection index] (.ok [])
  | failed {item rest} (index) (fails : item.code.fails = true) :
      Listed index (item :: rest) [.nextConnection index] (.error item.code)
  | hollow {item rest} (index) (gives : item.gives = true) (empty : item.holdsObject = false) :
      Listed index (item :: rest) [.nextConnection index] (.error .typeMismatch)
  | uncast {item rest} (index) (gives : item.gives = true)
      (fails : item.asConnection.fails = true) :
      Listed index (item :: rest) [.nextConnection index, .asConnection index]
        (.error item.asConnection)
  | kept {index item rest calls answer} (gives : item.gives = true)
      (holds : item.holdsObject = true) (casts : item.asConnection.fails = false)
      (later : Listed (index + 1) rest calls answer) :
      Listed index (item :: rest) (.nextConnection index :: .asConnection index :: calls)
        (answer.map (⟨index, item⟩ :: ·))

section Breaks
variable {item : ConnectionItem} {items : List ConnectionItem} {code : Code}

theorem givesSucceeds (gives : item.gives = true) : item.code.fails = false := by
  simp only [ConnectionItem.gives, Bool.and_eq_true, decide_eq_true_eq] at gives
  rw [gives.1]
  decide

theorem breaksLater (gives : item.gives = true) (h : Breaks items code) :
    Breaks (item :: items) code := by
  cases h with
  | pull last fails => exact .pull (by rwa [List.dropWhile_cons_of_pos gives]) fails
  | holder given empty =>
    exact .holder (by rw [List.takeWhile_cons_of_pos gives]; exact .tail _ given) empty
  | cast given fails =>
    exact .cast (by rw [List.takeWhile_cons_of_pos gives]; exact .tail _ given) fails

theorem breaksHere (gives : item.gives = true) (holds : item.holdsObject = true)
    (casts : item.asConnection.fails = false) (h : Breaks (item :: items) code) :
    Breaks items code := by
  cases h with
  | pull last fails => exact .pull (by rwa [List.dropWhile_cons_of_pos gives] at last) fails
  | holder given empty =>
    rw [List.takeWhile_cons_of_pos gives] at given
    rcases List.mem_cons.mp given with rfl | later
    · rw [holds] at empty
      cases empty
    · exact .holder later empty
  | cast given fails =>
    rw [List.takeWhile_cons_of_pos gives] at given
    rcases List.mem_cons.mp given with rfl | later
    · rw [casts] at fails
      cases fails
    · exact .cast later fails

theorem breaksEnded (ends : item.gives = false) (succeeds : item.code.fails = false) :
    ¬ Breaks (item :: items) code := by
  have front : (item :: items).takeWhile ConnectionItem.gives = [] := by simp [ends]
  intro h
  cases h with
  | pull last fails =>
    rw [List.dropWhile_cons_of_neg (by simp [ends])] at last
    cases last
    rw [succeeds] at fails
    cases fails
  | holder given | cast given =>
    rw [front] at given
    cases given

end Breaks

section Listed
variable {index : Nat} {items : List ConnectionItem} {calls : List Call}
variable {answer : Except Code (List Connection)} {connections : List Connection} {code : Code}

theorem listedUninspected (h : Listed index items calls answer) :
    ∀ c ∈ calls, c.inspects = false := by
  induction h with
  | spent | ended | failed | hollow | uncast => simp [Call.inspects]
  | kept gives holds casts later ih =>
    simp only [List.forall_mem_cons]
    exact ⟨rfl, rfl, ih⟩

theorem listedFault (h : Listed index items calls (.error code)) : Breaks items code := by
  generalize answered : (.error code : Except Code (List Connection)) = answer at h
  induction h with
  | spent | ended => cases answered
  | failed index fails =>
    cases answered
    refine .pull ?_ fails
    rw [List.dropWhile_cons_of_neg fun gives => ?_]
    · rfl
    · rw [givesSucceeds gives] at fails
      cases fails
  | hollow index gives empty =>
    cases answered
    exact .holder (by rw [List.takeWhile_cons_of_pos gives]; exact .head _) empty
  | uncast index gives fails =>
    cases answered
    exact .cast (by rw [List.takeWhile_cons_of_pos gives]; exact .head _) fails
  | @kept index item rest calls answer gives holds casts later ih =>
    cases answer with
    | ok connections => cases answered
    | error last =>
      cases answered
      exact breaksLater gives (ih rfl)

theorem listedWhole (h : Listed index items calls (.ok connections)) :
    (∀ code, ¬ Breaks items code) ∧ connections = connectionsGiven index items ∧
      calls = connectionPulls index (items.takeWhile ConnectionItem.gives).length := by
  generalize answered : (.ok connections : Except Code (List Connection)) = answer at h
  induction h generalizing connections with
  | spent index =>
    cases answered
    refine ⟨fun code h => ?_, rfl, rfl⟩
    cases h with
    | pull last => cases last
    | holder given | cast given => cases given
  | ended index ends succeeds =>
    cases answered
    exact ⟨fun code => breaksEnded ends succeeds, by simp [connectionsGiven, ends],
      by simp [connectionPulls, ends]⟩
  | failed | hollow | uncast => cases answered
  | @kept index item rest calls answer gives holds casts later ih =>
    cases answer with
    | error code => cases answered
    | ok more =>
      cases answered
      obtain ⟨sound, rfl, rfl⟩ := ih rfl
      refine ⟨fun code h => sound code (breaksHere gives holds casts h), ?_, ?_⟩
      · simp [connectionsGiven, gives]
      · simp [connectionPulls, gives, List.range'_succ, Nat.add_assoc, Nat.add_comm 1]

end Listed

namespace Machine
variable (w : Machine)

def sharingFault (code : Code) : Fault := .sharing (w.describe code)

section TakeUp
variable {index : Nat} {item : ConnectionItem} {s : Ahead}

theorem hollowYields (empty : item.holdsObject = false) :
    Act.Yields Effect.call? (w.connectionOf index item) s []
      (.error (w.sharingFault .typeMismatch)) s := by
  unfold connectionOf
  rw [empty]
  exact Act.yieldsError (w.demandYields .sharing .typeMismatch s)

theorem heldYields (holds : item.holdsObject = true) :
    Act.Yields Effect.call? (w.connectionOf index item) s [.asConnection index]
      (if item.asConnection.fails then .error (w.sharingFault item.asConnection)
        else .ok ⟨index, item⟩) s := by
  have held := w.demandYields .sharing .done s
  have cast := w.demandYields .sharing item.asConnection s
  unfold connectionOf
  rw [if_pos holds]
  split
  · rename_i fails
    rw [if_pos fails] at cast
    exact Act.yieldsOk held (Act.yieldsOk (Act.yieldsCall _ s) (Act.yieldsError cast))
  · rename_i casts
    rw [if_neg casts] at cast
    exact Act.yieldsOk held (Act.yieldsOk (Act.yieldsCall _ s)
      (Act.yieldsOk cast (Act.yieldsPure _ s)))

theorem takeUpListed {rest : List ConnectionItem} {calls : List Call}
    {answer : Except Code (List Connection)} (gives : item.gives = true)
    (later : Listed (index + 1) rest calls answer)
    (run : Act.Yields Effect.call? (w.collectConnections (index + 1) rest) s calls
      (answer.mapError w.sharingFault) s) :
    ∃ calls answer, Listed index (item :: rest) (.nextConnection index :: calls) answer ∧
      Act.Yields Effect.call? (do
        let c ← w.connectionOf index item
        let more ← w.collectConnections (index + 1) rest
        pure (c :: more)) s calls (answer.mapError w.sharingFault) s := by
  cases holds : item.holdsObject with
  | false =>
    exact ⟨_, _, .hollow index gives holds, Act.yieldsError (w.hollowYields holds)⟩
  | true =>
    have held : Act.Yields _ (w.connectionOf index item) s _ _ s := w.heldYields holds
    cases fails : item.asConnection.fails with
    | true =>
      rw [if_pos fails] at held
      exact ⟨_, _, .uncast index gives fails, Act.yieldsError held⟩
    | false =>
      rw [if_neg (by simp [fails])] at held
      have same : (answer.map (⟨index, item⟩ :: ·)).mapError w.sharingFault =
          (answer.mapError w.sharingFault).map (⟨index, item⟩ :: ·) := by cases answer <;> rfl
      refine ⟨_, _, .kept gives holds fails later, ?_⟩
      rw [same]
      exact Act.yieldsOk held (Act.yieldsMap (⟨index, item⟩ :: ·) run)

end TakeUp

theorem collectConnectionsListed (index : Nat) (items : List ConnectionItem) (s : Ahead) :
    ∃ calls answer, Listed index items calls answer ∧
      Act.Yields Effect.call? (w.collectConnections index items) s calls
        (answer.mapError w.sharingFault) s := by
  -- The index is the count of answers taken up so far, so it grows along the answers that are left.
  induction items generalizing index with
  | nil =>
    exact ⟨_, _, .spent index, Act.yieldsOk (Act.yieldsCall _ s) (Act.yieldsPure [] s)⟩
  | cons item rest ih =>
    have pulled := w.demandYields .sharing item.code s
    cases fails : item.code.fails with
    | true =>
      rw [fails] at pulled
      exact ⟨_, _, .failed index fails,
        Act.yieldsOk (Act.yieldsCall _ s) (Act.yieldsError pulled)⟩
    | false =>
      rw [fails] at pulled
      cases gives : item.gives with
      | true =>
        have whole : item.code = .done ∧ item.fetched ≠ 0 := by
          simpa [ConnectionItem.gives] using gives
        obtain ⟨calls, answer, later, run⟩ := ih (index + 1)
        obtain ⟨taken, all, listed, took⟩ := w.takeUpListed gives later run
        refine ⟨_, all, listed, Act.yieldsOk (Act.yieldsCall _ s) (Act.yieldsOk pulled ?_)⟩
        rw [if_pos whole]
        exact took
      | false =>
        have last : ¬ (item.code = .done ∧ item.fetched ≠ 0) := by
          simpa [ConnectionItem.gives] using gives
        refine ⟨_, _, .ended index gives fails,
          Act.yieldsOk (Act.yieldsCall _ s) (Act.yieldsOk pulled ?_)⟩
        rw [if_neg last]
        exact Act.yieldsPure [] s

inductive Listing (calls : List Call) : Except Code (List Connection) → Prop where
  | broken {code} (unlisted : Unlisted w code) (spared : ∀ c ∈ calls, c.inspects = false) :
      Listing calls (.error code)
  | whole (sound : ∀ code, ¬ Unlisted w code)
      (pulls : calls = [.listConnections, .enumerateConnections, .asVariants] ++
        connectionPulls 0 (w.connections.takeWhile ConnectionItem.gives).length) :
      Listing calls (.ok (connectionsGiven 0 w.connections))

theorem connectionListListing (s : Ahead) : ∃ calls answer, w.Listing calls answer ∧
    Act.Yields Effect.call? w.connectionList s calls (answer.mapError w.sharingFault) s := by
  have listing := w.demandObjectYields .sharing w.listing s
  have enumeration := w.demandObjectYields .sharing w.enumeration s
  have variants := w.demandYields .sharing w.asVariants s
  cases refused : w.listing.refusal? with
  | some code =>
    rw [refused] at listing
    exact ⟨_, .error code, .broken (.listing refused) (by simp [Call.inspects]),
      Act.yieldsOk (Act.yieldsCall _ s) (Act.yieldsError listing)⟩
  | none =>
  rw [refused] at listing
  cases unread : w.enumeration.refusal? with
  | some code =>
    rw [unread] at enumeration
    exact ⟨_, .error code, .broken (.enumeration unread) (by simp [Call.inspects]),
      Act.yieldsOk (Act.yieldsCall _ s) (Act.yieldsOk listing
        (Act.yieldsOk (Act.yieldsCall _ s) (Act.yieldsError enumeration)))⟩
  | none =>
  rw [unread] at enumeration
  cases fails : w.asVariants.fails with
  | true =>
    rw [fails] at variants
    exact ⟨_, .error w.asVariants, .broken (.variants fails) (by simp [Call.inspects]),
      Act.yieldsOk (Act.yieldsCall _ s) (Act.yieldsOk listing (Act.yieldsOk (Act.yieldsCall _ s)
        (Act.yieldsOk enumeration (Act.yieldsOk (Act.yieldsCall _ s)
          (Act.yieldsError variants)))))⟩
  | false =>
  rw [fails] at variants
  obtain ⟨calls, answer, listed, run⟩ := w.collectConnectionsListed 0 w.connections s
  have all : Act.Yields Effect.call? w.connectionList s
      (.listConnections :: .enumerateConnections :: .asVariants :: calls)
      (answer.mapError w.sharingFault) s :=
    Act.yieldsOk (Act.yieldsCall _ s) (Act.yieldsOk listing (Act.yieldsOk (Act.yieldsCall _ s)
      (Act.yieldsOk enumeration (Act.yieldsOk (Act.yieldsCall _ s)
        (Act.yieldsOk variants run)))))
  refine ⟨_, answer, ?_, all⟩
  cases answer with
  | error code =>
    refine .broken (.answers (listedFault listed)) ?_
    simp only [List.forall_mem_cons]
    exact ⟨rfl, rfl, rfl, listedUninspected listed⟩
  | ok connections =>
    obtain ⟨sound, rfl, rfl⟩ := listedWhole listed
    refine .whole (fun code h => ?_) rfl
    cases h with
    | listing broken =>
      rw [refused] at broken
      cases broken
    | enumeration broken =>
      rw [unread] at broken
      cases broken
    | variants broken =>
      rw [fails] at broken
      cases broken
    | answers breaks => exact sound code breaks

theorem meantMatches {adapters : List Adapter} {a : Adapter} {deviceId : String}
    (stands : a ∈ adapters) (meant : a.isMeantBy deviceId = true) :
    ∃ instanceId, Sharing.matchAdapter adapters deviceId = some instanceId := by
  have found : (adapters.find? (·.isMeantBy deviceId)).isSome = true :=
    List.find?_isSome.mpr ⟨a, stands, meant⟩
  obtain ⟨first, same⟩ := Option.isSome_iff_exists.mp found
  exact ⟨first.instanceId, by rw [Sharing.matchAdapter, same, Option.map_some]⟩

theorem adapterCallsUninspected (k : RegistryKey) : ∀ c ∈ k.calls, c.inspects = false := by
  unfold RegistryKey.calls
  split
  · simp
  · simp [Call.inspects]
  · cases k.value? instanceIdValue <;> simp [Call.inspects]

theorem guardBreaksOff {deviceId : String} {a : Adapter} {code : Code}
    (opened : w.registry.refusal = none) (stands : a ∈ w.registry.adapters)
    (meant : a.isMeantBy deviceId = true) (unlisted : Unlisted w code) (s : Ahead) :
    ∃ calls last s', (∀ c ∈ calls, c.inspects = false) ∧
      Act.Yields Effect.call? (w.ensureNotShared deviceId) s calls (.error (w.sharingFault last))
        s' := by
  have created := w.createObjectYields .sharing .sharingManager s
  cases refused : s.takeObject.1.refusal? with
  | some code =>
    rw [refused] at created
    exact ⟨_, code, _, by simp [Call.inspects], Act.yieldsError created⟩
  | none =>
    rw [refused] at created
    obtain ⟨instanceId, found⟩ := meantMatches stands meant
    have known := w.instanceIdYields opened deviceId s.takeObject.2
    rw [found] at known
    obtain ⟨calls, answer, listing, listed⟩ := w.connectionListListing s.takeObject.2
    cases listing with
    | whole sound => exact absurd unlisted (sound code)
    | @broken last broken spared =>
      refine ⟨_, last, _, ?_, Act.yieldsOk created (Act.yieldsOk known
        (Act.yieldsOk (Act.yieldsQuiet rfl _) (Act.yieldsError listed)))⟩
      simp only [List.forall_mem_append, List.forall_mem_cons, List.mem_flatMap]
      refine ⟨⟨rfl, by simp⟩, ⟨rfl, rfl, ?_⟩, by simp, spared⟩
      rintro c ⟨k, _, made⟩
      exact adapterCallsUninspected k c made

end Machine

/-- For a device that has an adapter, whatever breaks the listing of connections off makes the check
fail before anything is asked of a connection; a listing that nothing breaks off gives every
connection once, in its order, and calls for one answer more. -/
theorem brokenListingRefused (w : Machine) (deviceId : String) (a : Adapter)
    (opened : w.registry.refusal = none) (stands : a ∈ w.registry.adapters)
    (meant : a.isMeantBy deviceId = true) :
    ((∃ code, Unlisted w code) → ∀ s,
      let ran := (w.ensureNotShared deviceId).run s
      (∃ text, ran.result = .error (.sharing text) ∧ (Fault.sharing text).exitCode = -1) ∧
        ∀ c ∈ Trace.calls ran.trace, c.inspects = false) ∧
    ((¬ ∃ code, Unlisted w code) → ∀ s,
      Act.Yields Effect.call? w.connectionList s
        ([.listConnections, .enumerateConnections, .asVariants] ++
          connectionPulls 0 (w.connections.takeWhile ConnectionItem.gives).length)
        (.ok (connectionsGiven 0 w.connections)) s) := by
  constructor
  · rintro ⟨code, unlisted⟩ s
    obtain ⟨calls, last, s', spared, run⟩ := w.guardBreaksOff opened stands meant unlisted s
    refine ⟨⟨_, run.result, rfl⟩, ?_⟩
    rw [Trace.calls, run.seen]
    exact spared
  · intro sound s
    obtain ⟨calls, answer, listing, run⟩ := w.connectionListListing s
    cases listing with
    | broken unlisted => exact absurd ⟨_, unlisted⟩ sound
    | whole _ pulls =>
      rw [← pulls]
      exact run

theorem brokenBehindUnshared :
    let units := "AB".toList.map fun c => c.toNat.toUInt16
    let keys : List RegistryKey := [{ name := some "0001", values := [(instanceIdValue, "AB")] }]
    let unshared : ConnectionItem := { guid := .ok units }
    let broken : Machine := { registry := { keys }, connections := [unshared, { code := 0x80004005 }] }
    let whole : Machine := { registry := { keys }, connections := [unshared] }
    (∃ text, ((broken.ensureNotShared "AB").run {}).result = .error (.sharing text) ∧
        (Fault.sharing text).exitCode = -1) ∧
      Act.Yields Effect.call? whole.connectionList {}
        [.listConnections, .enumerateConnections, .asVariants, .nextConnection 0, .asConnection 0,
          .nextConnection 1] (.ok [⟨0, unshared⟩]) {} := by
  intro units keys unshared broken whole
  have known : (⟨"AB", none⟩ : Adapter) ∈ Registry.adapters { keys } := by decide
  have meant : Adapter.isMeantBy ⟨"AB", none⟩ "AB" = true := by decide
  constructor
  · have fails : Unlisted broken 0x80004005 :=
      .answers (.pull (show _ = some { code := 0x80004005 } from rfl) (by decide))
    exact ((brokenListingRefused broken "AB" _ rfl known meant).1 ⟨_, fails⟩ {}).1
  · have listed : Listed 0 [unshared] _ (.ok [⟨0, unshared⟩]) := .kept rfl rfl rfl (.spent 1)
    have sound : ¬ ∃ code, Unlisted whole code := by
      rintro ⟨code, refused | refused | fails | breaks⟩
      · cases refused
      · cases refused
      · cases fails
      · exact (listedWhole listed).1 code breaks
    exact (brokenListingRefused whole "AB" _ rfl known meant).2 sound {}

end VmBridge.Windows
