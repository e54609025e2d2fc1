import VmBridge.Proofs.Runs
import VmBridge.Windows.Backend
/-! The part of the system that each call belongs to. The guard asks only for connections and
adapters, and work on an open configuration neither opens nor closes it. None of this writes
anything. -/
namespace VmBridge

namespace Binding
variable {κ σ π : Type} {P : κ → Prop}

theorem findPathOnly {token : π → Act κ σ String} (tokens : ∀ path, Act.Only P (token path))
    (wanted : String) {pulls : Enumeration κ σ π} (each : ∀ pull ∈ pulls, Act.Only P pull) :
    Act.Only P (findPath token wanted pulls) := by
  induction pulls with
  | nil => exact Act.onlyPure none
  | cons pull rest ih =>
    have tail := ih fun p mem => each p (List.mem_cons_of_mem _ mem)
    refine Act.onlyBind (Act.onlyAttempt (each pull List.mem_cons_self)) fun pulled => ?_
    match pulled with
    | .error e => exact Act.onlyBind (Act.onlyLog _ _ _) fun _ => Act.onlyPure none
    | .ok none => exact Act.onlyPure none
    | .ok (some path) =>
      refine Act.onlyBind (Act.onlyAttempt (tokens path)) fun read => ?_
      match read with
      | .error e => exact Act.onlyBind (Act.onlyLog _ _ _) fun _ => tail
      | .ok found =>
        dsimp only
        split
        · exact Act.onlyPure _
        · exact Act.onlyBind (Act.onlyLog _ _ _) fun _ => tail

theorem configToggleOnly {c : NetConfig κ σ π} (infId wanted : String) (on : Bool)
    (below : Act.Only P (c.below infId))
    (each : Act.Gives (fun pulls => ∀ pull ∈ pulls, Act.Only P pull) (c.below infId))
    (tokens : ∀ path, Act.Only P (c.token path))
    (sets : ∀ path, Act.Only P (c.setEnabled path on)) (applies : Act.Only P c.apply) :
    Act.Only P (c.toggle infId wanted on) := by
  refine Act.onlyBindGives below each fun pulls only => ?_
  refine Act.onlyBind (findPathOnly tokens wanted only) fun found => ?_
  match found with
  | none => exact Act.onlyFail _
  | some path => exact Act.onlyBind (Act.onlyMapFault _ (sets path)) fun _ => applies

end Binding

namespace Sharing
variable {κ σ γ : Type} {P : κ → Prop}

theorem findConnectionOnly {i : Inspector κ σ γ} (guids : ∀ c, Act.Only P (i.guid c))
    (instanceId : String) (connections : List γ) :
    Act.Only P (i.findConnection instanceId connections) := by
  induction connections with
  | nil => exact Act.onlyPure none
  | cons c rest ih =>
    refine Act.onlyBind (Act.onlyAttempt (guids c)) fun read => ?_
    match read with
    | .error e => exact Act.onlyBind (Act.onlyLog _ _ _) fun _ => ih
    | .ok guid =>
      dsimp only
      split
      · exact Act.onlyPure _
      · exact ih

theorem ensureNotSharedOnly {i : Inspector κ σ γ} (deviceId : String)
    (adapter : Act.Only P (i.instanceId deviceId)) (connections : Act.Only P i.connections)
    (guids : ∀ c, Act.Only P (i.guid c)) (shares : ∀ c, Act.Only P (i.isShared c)) :
    Act.Only P (ensureNotShared i deviceId) := by
  refine Act.onlyBind adapter fun found => ?_
  match found with
  | none => exact Act.onlyLog _ _ _
  | some instanceId =>
    refine Act.onlyBind (Act.onlyLog _ _ _) fun _ => Act.onlyBind connections fun listed => ?_
    refine Act.onlyBind (findConnectionOnly guids instanceId listed) fun chosen => ?_
    match chosen with
    | none => exact Act.onlyLog _ _ _
    | some (c, guid) =>
      refine Act.onlyBind (shares c) fun shared => ?_
      cases shared
      · exact Act.onlyPure ()
      · exact Act.onlyBind (Act.onlyLog _ _ _) fun _ => Act.onlyFail _

end Sharing

namespace Windows
open Binding

inductive Stage where
  | apartment
  | memory
  | guard
  | opening
  | work
  | closing
  deriving DecidableEq, Repr

def Call.stage : Call → Stage
  | enterApartment | leaveApartment => .apartment
  | freeString _ => .memory
  | create .sharingManager | listConnections | enumerateConnections | asVariants
  | nextConnection _ | asConnection _ | properties _ | guid _ | sharingSettings _
  | sharingEnabled _ | openClass | listKeys | openKey _ | readValue _ _ => .guard
  | create .netConfig | asLock | acquireLock _ | beginSession => .opening
  | findComponent _ | asBindings | enumeratePaths | nextPath _ | pathToken _ | enable _ _
  | apply => .work
  | endSession | releaseLock => .closing

def Call.guards (c : Call) : Prop := c.stage = .guard
def Call.works (c : Call) : Prop := c.stage = .work ∨ c.stage = .memory

def Call.changes : Call → Bool
  | enable _ _ | apply => true
  | _ => false

def Call.reads (c : Call) : Prop := c.works ∧ c.changes = false

namespace Machine
variable {P : Call → Prop} (w : Machine)

theorem demandOnly (blame : String → Fault) (c : Code) : Act.Only P (w.demand blame c) := by
  unfold demand
  split
  · exact Act.onlyFail _
  · exact Act.onlyPure ()

theorem demandObjectOnly (blame : String → Fault) (r : Reply) :
    Act.Only P (w.demandObject blame r) := by
  unfold demandObject
  split
  · exact Act.onlyFail _
  · exact Act.onlyPure ()

theorem freeOnly {σ : Type} (t : SystemString) :
    Act.Only Call.reads (t.free : Act Call σ Unit) := by
  cases t with
  | none => exact Act.onlyPure ()
  | some units => exact Act.onlyCall ⟨Or.inr rfl, rfl⟩

theorem readAdapterOnly (k : RegistryKey) : Act.Only Call.guards k.adapter := by
  unfold RegistryKey.adapter
  split
  · exact Act.onlyPure none
  · refine Act.onlyBind (Act.onlyCall rfl) fun _ => ?_
    split
    · exact Act.onlyPure none
    · refine Act.onlyBind (Act.onlyBind (Act.onlyCall rfl) fun _ => Act.onlyPure _) fun id => ?_
      split
      · exact Act.onlyPure none
      · refine Act.onlyBind (Act.onlyBind (Act.onlyCall rfl) fun _ => Act.onlyPure _) fun _ => ?_
        exact Act.onlyBind (Act.onlyLog _ _ _) fun _ => Act.onlyPure _

theorem adaptersOfOnly (keys : List RegistryKey) : Act.Only Call.guards (adaptersOf keys) := by
  induction keys with
  | nil => exact Act.onlyPure []
  | cons k rest ih =>
    exact Act.onlyBind (readAdapterOnly k) fun _ => Act.onlyBind ih fun _ => Act.onlyPure _

theorem instanceIdOnly (deviceId : String) : Act.Only Call.guards (w.instanceId deviceId) := by
  refine Act.onlyBind (Act.onlyBind (Act.onlyCall rfl) fun _ => ?_) fun _ => Act.onlyPure _
  split
  · exact Act.onlyFail _
  · exact Act.onlyBind (Act.onlyCall rfl) fun _ => adaptersOfOnly _

theorem connectionOfOnly (index : Nat) (item : ConnectionItem) :
    Act.Only Call.guards (w.connectionOf index item) :=
  Act.onlyBind (w.demandOnly _ _) fun _ => Act.onlyBind (Act.onlyCall rfl) fun _ =>
    Act.onlyBind (w.demandOnly _ _) fun _ => Act.onlyPure _

theorem collectConnectionsOnly (index : Nat) (items : List ConnectionItem) :
    Act.Only Call.guards (w.collectConnections index items) := by
  induction items generalizing index with
  | nil => exact Act.onlyBind (Act.onlyCall rfl) fun _ => Act.onlyPure _
  | cons item rest ih =>
    refine Act.onlyBind (Act.onlyCall rfl) fun _ => Act.onlyBind (w.demandOnly _ _) fun _ => ?_
    split
    · exact Act.onlyBind (w.connectionOfOnly index item) fun _ =>
        Act.onlyBind (ih (index + 1)) fun _ => Act.onlyPure _
    · exact Act.onlyPure []

theorem connectionListOnly : Act.Only Call.guards w.connectionList :=
  Act.onlyBind (Act.onlyCall rfl) fun _ => Act.onlyBind (w.demandObjectOnly _ _) fun _ =>
    Act.onlyBind (Act.onlyCall rfl) fun _ => Act.onlyBind (w.demandObjectOnly _ _) fun _ =>
      Act.onlyBind (Act.onlyCall rfl) fun _ => Act.onlyBind (w.demandOnly _ _) fun _ =>
        w.collectConnectionsOnly 0 w.connections

theorem connectionGuidOnly (c : Connection) : Act.Only Call.guards (w.connectionGuid c) := by
  refine Act.onlyBind (Act.onlyCall rfl) fun _ => Act.onlyBind (w.demandObjectOnly _ _) fun _ =>
    Act.onlyBind (Act.onlyCall rfl) fun _ => ?_
  split
  · exact Act.onlyPure _
  · exact Act.onlyFail _

theorem sharingEnabledOnly (c : Connection) : Act.Only Call.guards (w.sharingEnabled c) :=
  Act.onlyBind (Act.onlyCall rfl) fun _ => Act.onlyBind (w.demandObjectOnly _ _) fun _ =>
    Act.onlyBind (Act.onlyCall rfl) fun _ => Act.onlyBind (w.demandOnly _ _) fun _ =>
      Act.onlyPure _

theorem ensureNotSharedGuards (deviceId : String) :
    Act.Only Call.guards (w.ensureNotShared deviceId) := by
  refine Act.onlyBind ?_ fun _ => Sharing.ensureNotSharedOnly deviceId (w.instanceIdOnly deviceId)
    w.connectionListOnly w.connectionGuidOnly w.sharingEnabledOnly
  exact Act.onlyBind (Act.onlyCall rfl) fun _ => Act.onlyBind (Act.onlyTake _) fun _ =>
    w.demandObjectOnly _ _

theorem pullPathReads (index : Nat) (item : PathItem) :
    Act.Only Call.reads (w.pullPath index item) :=
  Act.onlyBind (Act.onlyCall ⟨Or.inl rfl, rfl⟩) fun _ => Act.onlyBind (w.demandOnly _ _) fun _ =>
    Act.onlyPure _

theorem pathsFromRead (index : Nat) (items : List PathItem) :
    ∀ pull ∈ w.pathsFrom index items, Act.Only Call.reads pull := by
  induction items generalizing index with
  | nil =>
    simp only [pathsFrom, List.mem_singleton, forall_eq]
    exact Act.onlyBind (Act.onlyCall ⟨Or.inl rfl, rfl⟩) fun _ => Act.onlyPure none
  | cons item rest ih =>
    simp only [pathsFrom, List.forall_mem_cons]
    exact ⟨w.pullPathReads index item, ih (index + 1)⟩

theorem findComponentReads (infId : String) : Act.Only Call.reads (w.findComponent infId) := by
  refine Act.onlyBind (Act.onlyCall ⟨Or.inl rfl, rfl⟩) fun _ => ?_
  split
  · exact Act.onlyFail _
  · split
    · exact Act.onlyBind (Act.onlyLog _ _ _) fun _ => Act.onlyFail _
    · split
      · exact Act.onlyFail _
      · exact Act.onlyPure _

theorem pathsBelowReads (infId : String) : Act.Only Call.reads (w.pathsBelow infId) :=
  Act.onlyBind (w.findComponentReads infId) fun _ =>
    Act.onlyBind (Act.onlyCall ⟨Or.inl rfl, rfl⟩) fun _ => Act.onlyBind (w.demandOnly _ _) fun _ =>
      Act.onlyBind (Act.onlyCall ⟨Or.inl rfl, rfl⟩) fun _ =>
        Act.onlyBind (w.demandObjectOnly _ _) fun _ => Act.onlyPure _

theorem pathsBelowGives (infId : String) :
    Act.Gives (fun pulls => ∀ pull ∈ pulls, Act.Only Call.reads pull) (w.pathsBelow infId) :=
  Act.givesBind fun c => Act.givesBind fun _ => Act.givesBind fun _ => Act.givesBind fun _ =>
    Act.givesBind fun _ => Act.givesPure (w.pathsFromRead 0 c.paths)

theorem pathTokenReads (p : Path) : Act.Only Call.reads (w.pathToken p) :=
  Act.onlyBind (Act.onlyCall ⟨Or.inl rfl, rfl⟩) fun _ => Act.onlyBind (w.demandOnly _ _) fun _ =>
    Act.onlyBind (freeOnly _) fun _ => Act.onlyPure _

theorem setEnabledWorks (p : Path) (on : Bool) : Act.Only Call.works (w.setEnabled p on) :=
  Act.onlyBind (Act.onlyCall (Or.inl rfl)) fun _ => w.demandOnly _ _

theorem applyChangesWorks : Act.Only Call.works w.applyChanges :=
  Act.onlyBind (Act.onlyCall (Or.inl rfl)) fun _ => Act.onlyBind (w.demandOnly _ _) fun _ =>
    Act.onlyLog _ _ _

theorem toggleWorks (infId wanted : String) (on : Bool) :
    Act.Only Call.works (w.netConfig.toggle infId wanted on) := by
  have works : ∀ c : Call, c.reads → c.works := fun _ reads => reads.1
  refine configToggleOnly infId wanted on (Act.onlyMono (w.pathsBelowReads infId) works)
    (fun s pulls given pull mem => ?_) (fun p => Act.onlyMono (w.pathTokenReads p) works)
    (fun p => w.setEnabledWorks p on) w.applyChangesWorks
  exact Act.onlyMono (w.pathsBelowGives infId s pulls given pull mem) works

end Machine
end Windows
end VmBridge
