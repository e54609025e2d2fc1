import VmBridge.Proofs.Windows.Closing
/-! The adapters that the registry keys stand for. A key that cannot be named, opened or asked for
its instance id stands for none, and each of the others for one, whatever stands beside it. So the
search for an adapter fails only where the key above them all cannot be opened, and keys that stand
for none, put in or taken out anywhere, leave its answer as it is. -/
namespace VmBridge.Windows
open Sharing (Adapter)

namespace RegistryKey

def adapter? (k : RegistryKey) : Option Adapter :=
  match k.name, k.refusal with
  | some _, none => (k.value? instanceIdValue).map fun id => ⟨id, k.value? devicePathValue⟩
  | _, _ => none

def calls (k : RegistryKey) : List Call :=
  match k.name, k.refusal with
  | none, _ => []
  | some name, some _ => [.openKey name]
  | some name, none =>
    .openKey name :: .readValue name instanceIdValue ::
      (k.value? instanceIdValue).toList.map fun _ => .readValue name devicePathValue

theorem readYields (k : RegistryKey) (name value : String) (s : Ahead) :
    Act.Yields Effect.call? (k.read name value) s [.readValue name value]
      (.ok (k.value? value)) s :=
  Act.yieldsOk (Act.yieldsCall _ s) (Act.yieldsPure _ s)

theorem adapterYields (k : RegistryKey) (s : Ahead) :
    Act.Yields Effect.call? k.adapter s k.calls (.ok k.adapter?) s := by
  unfold adapter calls adapter?
  cases k.name with
  | none => exact Act.yieldsPure none s
  | some name =>
    cases k.refusal with
    | some reason => exact Act.yieldsOk (Act.yieldsCall _ s) (Act.yieldsPure none s)
    | none =>
      have asked := k.readYields name instanceIdValue s
      cases answer : k.value? instanceIdValue with
      | none =>
        rw [answer] at asked
        exact Act.yieldsOk (Act.yieldsCall _ s) (Act.yieldsOk asked (Act.yieldsPure none s))
      | some id =>
        rw [answer] at asked
        exact Act.yieldsOk (Act.yieldsCall _ s) (Act.yieldsOk asked (Act.yieldsOk
          (k.readYields name devicePathValue s) (Act.yieldsOk (Act.yieldsQuiet rfl s)
            (Act.yieldsPure _ s))))

def Lost (k : RegistryKey) : Prop :=
  k.name = none ∨ k.refusal ≠ none ∨ k.value? "NetCfgInstanceId" = none

theorem lostAdapter {k : RegistryKey} (lost : k.Lost) : k.adapter? = none := by
  unfold adapter?
  split
  · rename_i listed opened
    rcases lost with unlisted | unopened | unidentified
    · rw [unlisted] at listed
      cases listed
    · exact absurd opened unopened
    · rw [instanceIdValue, unidentified, Option.map_none]
  · rfl

theorem knownAdapter {k : RegistryKey} {name id : String} (listed : k.name = some name)
    (opened : k.refusal = none) (identified : k.value? "NetCfgInstanceId" = some id) :
    k.adapter? = some ⟨id, k.value? "DeviceInstanceID"⟩ := by
  unfold adapter?
  rw [listed, opened, instanceIdValue, identified]
  rfl

end RegistryKey

/-- The adapters of keys, in the order of the keys. -/
inductive Stand : List RegistryKey → List Adapter → Prop where
  | nil : Stand [] []
  | lost {k keys adapters} (lost : k.Lost) (later : Stand keys adapters) :
      Stand (k :: keys) adapters
  | known {k keys adapters name id} (listed : k.name = some name) (opened : k.refusal = none)
      (identified : k.value? "NetCfgInstanceId" = some id) (later : Stand keys adapters) :
      Stand (k :: keys) (⟨id, k.value? "DeviceInstanceID"⟩ :: adapters)

inductive Padded : List RegistryKey → List RegistryKey → Prop where
  | nil : Padded [] []
  | both (k) {keys more} (later : Padded keys more) : Padded (k :: keys) (k :: more)
  | inserted {k keys more} (lost : k.Lost) (later : Padded keys more) : Padded keys (k :: more)
  | removed {k keys more} (lost : k.Lost) (later : Padded keys more) : Padded (k :: keys) more

theorem keysStand (keys : List RegistryKey) : ∃ adapters, Stand keys adapters := by
  induction keys with
  | nil => exact ⟨[], .nil⟩
  | cons k keys ih =>
    obtain ⟨adapters, later⟩ := ih
    match listed : k.name, opened : k.refusal, identified : k.value? "NetCfgInstanceId" with
    | none, _, _ => exact ⟨adapters, .lost (.inl listed) later⟩
    | _, some _, _ => exact ⟨adapters, .lost (.inr (.inl (by simp [opened]))) later⟩
    | _, _, none => exact ⟨adapters, .lost (.inr (.inr identified)) later⟩
    | some _, none, some _ => exact ⟨_, .known listed opened identified later⟩

theorem standAdapters {keys : List RegistryKey} {adapters : List Adapter}
    (h : Stand keys adapters) : keys.filterMap RegistryKey.adapter? = adapters := by
  induction h with
  | nil => rfl
  | lost lost later ih => rw [List.filterMap_cons_none (RegistryKey.lostAdapter lost), ih]
  | known listed opened identified later ih =>
    rw [List.filterMap_cons_some (RegistryKey.knownAdapter listed opened identified), ih]

theorem paddedAdapters {keys more : List RegistryKey} (h : Padded keys more) :
    keys.filterMap RegistryKey.adapter? = more.filterMap RegistryKey.adapter? := by
  induction h with
  | nil => rfl
  | both k later ih => rw [List.filterMap_cons, List.filterMap_cons, ih]
  | inserted lost later ih => rw [List.filterMap_cons_none (RegistryKey.lostAdapter lost), ih]
  | removed lost later ih => rw [List.filterMap_cons_none (RegistryKey.lostAdapter lost), ih]

def Registry.adapters (r : Registry) : List Adapter := r.keys.filterMap RegistryKey.adapter?

theorem adaptersOfYields (keys : List RegistryKey) (s : Ahead) :
    Act.Yields Effect.call? (adaptersOf keys) s (keys.flatMap RegistryKey.calls)
      (.ok (keys.filterMap RegistryKey.adapter?)) s := by
  induction keys with
  | nil => exact Act.yieldsPure [] s
  | cons k rest ih =>
    have same : k.adapter?.toList ++ rest.filterMap RegistryKey.adapter? =
        (k :: rest).filterMap RegistryKey.adapter? := by
      cases stands : k.adapter? <;> simp [stands]
    rw [List.flatMap_cons, ← same, adaptersOf]
    exact Act.yieldsOk (k.adapterYields s) (Act.yieldsMap (k.adapter?.toList ++ ·) ih)

namespace Machine
variable (w : Machine)

theorem instanceIdYields (opened : w.registry.refusal = none) (deviceId : String) (s : Ahead) :
    Act.Yields Effect.call? (w.instanceId deviceId) s
      (.openClass :: .listKeys :: w.registry.keys.flatMap RegistryKey.calls)
      (.ok (Sharing.matchAdapter w.registry.adapters deviceId)) s := by
  have listed : Act.Yields Effect.call? w.adapters s
      (.openClass :: .listKeys :: w.registry.keys.flatMap RegistryKey.calls)
      (.ok w.registry.adapters) s := by
    unfold adapters
    rw [opened]
    exact Act.yieldsOk (Act.yieldsCall _ s)
      (Act.yieldsOk (Act.yieldsCall _ s) (adaptersOfYields w.registry.keys s))
  exact Act.yieldsMap (Sharing.matchAdapter · deviceId) listed

theorem instanceIdUnopened {reason : String} (refused : w.registry.refusal = some reason)
    (deviceId : String) (s : Ahead) : Act.Yields Effect.call? (w.instanceId deviceId) s [.openClass]
      (.error (.sharing ("can't open HKLM\\" ++ adapterClass ++ ": " ++ reason))) s := by
  unfold instanceId adapters
  rw [refused]
  exact Act.yieldsError (Act.yieldsOk (Act.yieldsCall _ s) (Act.yieldsFail _ s))

theorem instanceIdStands (opened : w.registry.refusal = none) {adapters : List Adapter}
    (stand : Stand w.registry.keys adapters) (deviceId : String) (s : Ahead) :
    ((w.instanceId deviceId).run s).result = .ok (Sharing.matchAdapter adapters deviceId) := by
  rw [(w.instanceIdYields opened deviceId s).result, Registry.adapters, standAdapters stand]

theorem instanceIdPadded {other : Machine} (same : other.registry.refusal = w.registry.refusal)
    (padded : Padded w.registry.keys other.registry.keys) (deviceId : String) (s s' : Ahead) :
    ((other.instanceId deviceId).run s').result = ((w.instanceId deviceId).run s).result := by
  cases answer : w.registry.refusal with
  | some reason =>
    rw [(w.instanceIdUnopened answer deviceId s).result,
      (other.instanceIdUnopened (same.trans answer) deviceId s').result]
  | none =>
    rw [(w.instanceIdYields answer deviceId s).result,
      (other.instanceIdYields (same.trans answer) deviceId s').result, Registry.adapters,
      Registry.adapters, paddedAdapters padded]

end Machine

/-- An adapter is looked for among those of the keys that can be listed, opened and asked for an
instance id, in their order; only a class key that cannot be opened is told as a fault, and keys
that stand for no adapter change nothing, wherever they stand. -/
theorem registryTells (w : Machine) (deviceId : String) (s : Ahead) :
    let answer := ((w.instanceId deviceId).run s).result
    (∀ e, answer = .error e ↔ ∃ reason, w.registry.refusal = some reason ∧
      e = .sharing ("can't open HKLM\\" ++ adapterClass ++ ": " ++ reason)) ∧
    (w.registry.refusal = none → ∃ adapters, Stand w.registry.keys adapters ∧
      answer = .ok (Sharing.matchAdapter adapters deviceId)) ∧
    ∀ (other : Machine) (s' : Ahead), other.registry.refusal = w.registry.refusal →
      Padded w.registry.keys other.registry.keys →
      ((other.instanceId deviceId).run s').result = answer := by
  intro answer
  obtain ⟨adapters, stand⟩ := keysStand w.registry.keys
  refine ⟨fun e => ?_, fun opened => ⟨adapters, stand, w.instanceIdStands opened stand deviceId s⟩,
    fun other s' same padded => w.instanceIdPadded same padded deviceId s s'⟩
  cases refusal : w.registry.refusal with
  | some reason =>
    have refused : answer = _ := (w.instanceIdUnopened refusal deviceId s).result
    simp [refused, eq_comm]
  | none =>
    have found : answer = _ := w.instanceIdStands refusal stand deviceId s
    simp [found]

theorem adapterBehindLost :
    let own : RegistryKey := { name := some "2", values := [("NetCfgInstanceId", "A1")] }
    let same := [("NetCfgInstanceId", "\x7bA1\x7d")]
    let unlisted : RegistryKey := { name := none, values := same }
    let unopened : RegistryKey := { name := some "1", refusal := some "denied", values := same }
    let unidentified : RegistryKey := { name := some "0", values := [("DeviceInstanceID", "a1")] }
    let alone : Machine := { registry := { keys := [own] } }
    let hidden : Machine := { registry := { keys := [unlisted, unopened, unidentified, own] } }
    ((hidden.instanceId "a1").run {}).result = ((alone.instanceId "a1").run {}).result ∧
      ((alone.instanceId "a1").run {}).result = .ok (some "A1") := by
  intro own same unlisted unopened unidentified alone hidden
  have padded : Padded [own] [unlisted, unopened, unidentified, own] :=
    .inserted (.inl rfl) (.inserted (.inr (.inl (by simp [unopened])))
      (.inserted (.inr (.inr (by decide))) (.both own .nil)))
  have told := registryTells alone "a1" {}
  refine ⟨told.2.2 hidden {} rfl padded, ?_⟩
  obtain ⟨adapters, stand, found⟩ := told.2.1 rfl
  have listed : [⟨"A1", none⟩] = adapters := standAdapters stand
  rw [found, ← listed]
  exact congrArg Except.ok (by decide)

end VmBridge.Windows
