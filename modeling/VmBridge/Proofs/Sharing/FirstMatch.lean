import VmBridge.Proofs.Notes
import VmBridge.Sharing.Guard
/-! The connection that decides. Of all that a check could be answered, its result depends on the
first connection with a readable GUID of the device's adapter; the sharing state of no other
connection is read. -/
namespace VmBridge.Sharing
variable {κ σ γ : Type}

inductive Read (γ : Type) where
  | adapter (deviceId : String) (answer : Except Fault (Option String))
  | connections (answer : Except Fault (List γ))
  | guid (connection : γ) (answer : Except Fault String)
  | shared (connection : γ) (answer : Except Fault Bool)

def Inspector.watched (i : Inspector κ σ γ) : Inspector (κ ⊕ Read γ) σ γ where
  instanceId deviceId := (i.instanceId deviceId).noting (.adapter deviceId)
  connections := i.connections.noting .connections
  guid c := (i.guid c).noting (.guid c)
  isShared c := (i.isShared c).noting (.shared c)

theorem findConnectionEchoes (i : Inspector κ σ γ) (instanceId : String) (connections : List γ) :
    (i.watched.findConnection instanceId connections).Echoes
      (i.findConnection instanceId connections) := by
  induction connections with
  | nil => exact Act.echoPure none
  | cons c rest ih =>
    refine Act.echoBind (Act.echoAttempt (Act.echoNoting _ _)) fun read => ?_
    match read with
    | .error e => exact Act.echoBind (Act.echoLog _ _ _) fun _ => ih
    | .ok guid =>
      dsimp only
      split
      · exact Act.echoPure _
      · exact ih

theorem checkConnectionsEchoes (i : Inspector κ σ γ) (deviceId instanceId : String) :
    (i.watched.checkConnections deviceId instanceId).Echoes
      (i.checkConnections deviceId instanceId) := by
  refine Act.echoBind (Act.echoNoting _ _) fun connections => ?_
  refine Act.echoBind (findConnectionEchoes i instanceId connections) fun found => ?_
  match found with
  | none => exact Act.echoLog _ _ _
  | some (c, guid) =>
    refine Act.echoBind (Act.echoNoting _ _) fun shared => ?_
    cases shared with
    | false => exact Act.echoPure ()
    | true => exact Act.echoBind (Act.echoLog _ _ _) fun _ => Act.echoFail _

theorem ensureNotSharedEchoes (i : Inspector κ σ γ) (deviceId : String) :
    (ensureNotShared i.watched deviceId).Echoes (ensureNotShared i deviceId) := by
  refine Act.echoBind (Act.echoNoting _ _) fun adapter => ?_
  match adapter with
  | none => exact Act.echoLog _ _ _
  | some instanceId =>
    exact Act.echoBind (Act.echoLog _ _ _) fun _ => checkConnectionsEchoes i deviceId instanceId

structure Heard (γ : Type) where
  connection : γ
  guid : Except Fault String
  shared : Except Fault Bool

namespace Heard

def isReadable (h : Heard γ) : Bool := h.guid.isOk

def isOf (instanceId : String) (h : Heard γ) : Bool :=
  match h.guid with
  | .ok guid => sameGuid guid instanceId
  | .error _ => false

def guidRead (h : Heard γ) : Read γ := .guid h.connection h.guid
def sharedRead (h : Heard γ) : Read γ := .shared h.connection h.shared

def verdict (deviceId : String) (h : Heard γ) : Except Fault Unit :=
  match h.shared with
  | .error e => .error e
  | .ok true => .error (.sharedConnection deviceId)
  | .ok false => .ok ()

theorem isOfReadable {instanceId : String} {h : Heard γ} (same : h.isOf instanceId = true) :
    h.isReadable = true := by
  unfold isOf at same
  split at same
  · rename_i guid read
    rw [isReadable, read]
    rfl
  · cases same

end Heard

structure Answers (γ : Type) where
  adapter : Except Fault (Option String)
  connections : Except Fault (List (Heard γ))

namespace Answers

def decided (deviceId instanceId : String) (heard : List (Heard γ)) : Except Fault Unit :=
  match heard.find? (·.isOf instanceId) with
  | none => .ok ()
  | some h => h.verdict deviceId

def verdict (deviceId : String) (a : Answers γ) : Except Fault Unit :=
  match a.adapter with
  | .error e => .error e
  | .ok none => .ok ()
  | .ok (some instanceId) => a.connections.bind (decided deviceId instanceId)

def guidReads (instanceId : String) (heard : List (Heard γ)) : List (Read γ) :=
  (heard.takeWhile (!·.isOf instanceId)).map Heard.guidRead ++
    (heard.find? (·.isOf instanceId)).toList.map Heard.guidRead

def sharedReads (instanceId : String) (heard : List (Heard γ)) : List (Read γ) :=
  (heard.find? (·.isOf instanceId)).toList.map Heard.sharedRead

def connectionReads (instanceId : String) (connections : Except Fault (List (Heard γ))) :
    List (Read γ) :=
  .connections (connections.map (·.map Heard.connection)) ::
    match connections with
    | .error _ => []
    | .ok heard => guidReads instanceId heard ++ sharedReads instanceId heard

def reads (deviceId : String) (a : Answers γ) : List (Read γ) :=
  .adapter deviceId a.adapter ::
    match a.adapter with
    | .ok (some instanceId) => connectionReads instanceId a.connections
    | _ => []

def readable (a : Answers γ) : Answers γ :=
  { a with connections := a.connections.map (·.filter Heard.isReadable) }

theorem guidReadsFound {instanceId : String} {h : Heard γ} (same : h.isOf instanceId = true)
    (rest : List (Heard γ)) : guidReads instanceId (h :: rest) = [h.guidRead] := by
  simp [guidReads, same]

theorem guidReadsPassed {instanceId : String} {h : Heard γ} (other : h.isOf instanceId = false)
    (rest : List (Heard γ)) :
    guidReads instanceId (h :: rest) = h.guidRead :: guidReads instanceId rest := by
  simp [guidReads, other]

theorem decidedReadable (deviceId instanceId : String) (heard : List (Heard γ)) :
    decided deviceId instanceId (heard.filter Heard.isReadable) =
      decided deviceId instanceId heard := by
  have kept : ∀ h : Heard γ, (h.isReadable = true ∧ h.isOf instanceId = true) ↔
      h.isOf instanceId = true := fun h => ⟨And.right, fun same => ⟨Heard.isOfReadable same, same⟩⟩
  simp only [decided, List.find?_filter, kept, Bool.decide_eq_true]

theorem verdictReadable (deviceId : String) (a : Answers γ) :
    a.readable.verdict deviceId = a.verdict deviceId := by
  obtain ⟨adapter, connections⟩ := a
  match adapter, connections with
  | .error e, _ => rfl
  | .ok none, _ => rfl
  | .ok (some instanceId), .error e => rfl
  | .ok (some instanceId), .ok heard => exact decidedReadable deviceId instanceId heard

end Answers

namespace Inspector

def hear (i : Inspector κ σ γ) : σ → List γ → List (Heard γ)
  | _, [] => []
  | s, c :: rest =>
    let read := (i.guid c).run s
    ⟨c, read.result, ((i.isShared c).run read.state).result⟩ :: i.hear read.state rest

def listed (i : Inspector κ σ γ) (s : σ) : Except Fault (List (Heard γ)) :=
  let answer := i.connections.run s
  answer.result.map (i.hear answer.state)

def answers (i : Inspector κ σ γ) (deviceId : String) (s : σ) : Answers γ :=
  let adapter := (i.instanceId deviceId).run s
  ⟨adapter.result, i.listed adapter.state⟩

end Inspector

theorem hearConnections (i : Inspector κ σ γ) (connections : List γ) (s : σ) :
    (i.hear s connections).map Heard.connection = connections := by
  induction connections generalizing s with
  | nil => rfl
  | cons c rest ih => simp [Inspector.hear, ih]

inductive Found (i : Inspector κ σ γ) (s : σ) : Option (Heard γ) → Option (γ × String) → Prop where
  | nothing : Found i s none none
  | connection (h : Heard γ) (guid : String)
      (asked : ((i.isShared h.connection).run s).result = h.shared) :
      Found i s (some h) (some (h.connection, guid))

theorem findConnectionFound (i : Inspector κ σ γ) (instanceId : String) (connections : List γ)
    (s : σ) : ∃ found s',
      Act.Yields Effect.note? (i.watched.findConnection instanceId connections) s
        (Answers.guidReads instanceId (i.hear s connections)) (.ok found) s' ∧
      Found i s' ((i.hear s connections).find? (·.isOf instanceId)) found := by
  induction connections generalizing s with
  | nil => exact ⟨none, s, Act.yieldsPure none s, .nothing⟩
  | cons c rest ih =>
    have read := Act.yieldsAttempt (Act.yieldsNoting (Read.guid c) (i.guid c) s)
    obtain ⟨found, s', later, chosen⟩ := ih ((i.guid c).run s).state
    simp only [Inspector.hear]
    match answer : ((i.guid c).run s).result with
    | .error e =>
      rw [answer] at read
      refine ⟨found, s', ?_, ?_⟩
      · rw [Answers.guidReadsPassed rfl]
        change Act.Yields _ _ _ ([_] ++ ([] ++ Answers.guidReads _ _)) _ _
        exact Act.yieldsOk read (Act.yieldsOk (Act.yieldsQuiet rfl _) later)
      · rwa [List.find?_cons_of_neg (by simp [Heard.isOf])]
    | .ok guid =>
      rw [answer] at read
      by_cases same : sameGuid guid instanceId = true
      · refine ⟨some (c, guid), ((i.guid c).run s).state, ?_, ?_⟩
        · rw [Answers.guidReadsFound (by simp [Heard.isOf, same])]
          change Act.Yields _ _ _ ([_] ++ []) _ _
          refine Act.yieldsOk read ?_
          simp only [same, if_true]
          exact Act.yieldsPure _ _
        · rw [List.find?_cons_of_pos (by simp [Heard.isOf, same])]
          exact .connection _ guid rfl
      · have other := Bool.eq_false_iff.mpr same
        refine ⟨found, s', ?_, ?_⟩
        · rw [Answers.guidReadsPassed (by simp [Heard.isOf, other])]
          change Act.Yields _ _ _ ([_] ++ Answers.guidReads _ _) _ _
          refine Act.yieldsOk read ?_
          simp only [other, Bool.false_eq_true, if_false]
          exact later
        · rwa [List.find?_cons_of_neg (by simp [Heard.isOf, other])]

theorem refusalYields (i : Inspector κ σ γ) (deviceId message : String) {h : Heard γ} {s : σ}
    (asked : ((i.isShared h.connection).run s).result = h.shared) :
    Act.Yields Effect.note? (do
        let shared ← i.watched.isShared h.connection
        if shared then
          Act.log .warn .sharing message
          Act.fail (.sharedConnection deviceId)
        else pure ()) s [h.sharedRead] (h.verdict deviceId)
      ((i.isShared h.connection).run s).state := by
  have read := Act.yieldsNoting (Read.shared h.connection) (i.isShared h.connection) s
  rw [asked] at read
  unfold Heard.verdict Heard.sharedRead
  match answer : h.shared with
  | .error e =>
    rw [answer] at read
    exact Act.yieldsError read
  | .ok true =>
    rw [answer] at read
    exact Act.yieldsOk read (Act.yieldsOk (Act.yieldsQuiet rfl _) (Act.yieldsFail _ _))
  | .ok false =>
    rw [answer] at read
    exact Act.yieldsOk read (Act.yieldsPure () _)

theorem checkConnectionsYields (i : Inspector κ σ γ) (deviceId instanceId : String) (s : σ) :
    ∃ s', Act.Yields Effect.note? (i.watched.checkConnections deviceId instanceId) s
      (Answers.connectionReads instanceId (i.listed s))
      ((i.listed s).bind (Answers.decided deviceId instanceId)) s' := by
  have asked := Act.yieldsNoting Read.connections i.connections s
  match answer : (i.connections.run s).result with
  | .error e =>
    have listed : i.listed s = .error e := by rw [Inspector.listed, answer]; rfl
    rw [answer] at asked
    rw [listed]
    exact ⟨_, Act.yieldsError asked⟩
  | .ok connections =>
    have listed : i.listed s = .ok (i.hear (i.connections.run s).state connections) := by
      rw [Inspector.listed, answer]; rfl
    have names := hearConnections i connections (i.connections.run s).state
    rw [answer] at asked
    obtain ⟨found, s', search, chosen⟩ :=
      findConnectionFound i instanceId connections (i.connections.run s).state
    rw [listed]
    simp only [Except.map, Except.bind, Answers.connectionReads, Answers.sharedReads,
      Answers.decided, names]
    generalize (i.hear (i.connections.run s).state connections).find? (·.isOf instanceId) = first
      at chosen ⊢
    cases chosen with
    | nothing =>
      exact ⟨_, Act.yieldsOk asked (Act.yieldsOk search (Act.yieldsQuiet rfl _))⟩
    | connection h guid heard =>
      exact ⟨_, Act.yieldsOk asked (Act.yieldsOk search (refusalYields i deviceId _ heard))⟩

theorem ensureNotSharedYields (i : Inspector κ σ γ) (deviceId : String) (s : σ) :
    ∃ s', Act.Yields Effect.note? (ensureNotShared i.watched deviceId) s
      ((i.answers deviceId s).reads deviceId) ((i.answers deviceId s).verdict deviceId) s' := by
  have asked := Act.yieldsNoting (Read.adapter (γ := γ) deviceId) (i.instanceId deviceId) s
  simp only [Inspector.answers, Answers.reads, Answers.verdict]
  match answer : ((i.instanceId deviceId).run s).result with
  | .error e =>
    rw [answer] at asked
    exact ⟨_, Act.yieldsError asked⟩
  | .ok none =>
    rw [answer] at asked
    exact ⟨_, Act.yieldsOk asked (Act.yieldsQuiet rfl _)⟩
  | .ok (some instanceId) =>
    rw [answer] at asked
    obtain ⟨s', checked⟩ :=
      checkConnectionsYields i deviceId instanceId ((i.instanceId deviceId).run s).state
    exact ⟨s', Act.yieldsOk asked (Act.yieldsOk (Act.yieldsQuiet rfl _) checked)⟩

theorem ensureNotSharedVerdict (i : Inspector κ σ γ) (deviceId : String) (s : σ) :
    ((ensureNotShared i deviceId).run s).result = (i.answers deviceId s).verdict deviceId := by
  obtain ⟨s', run⟩ := ensureNotSharedYields i deviceId s
  rw [← run.result]
  exact (Act.echoRun (ensureNotSharedEchoes i deviceId) s).1.symm

/-- On every inspector, watched or not, the first connection with a readable GUID of the adapter
decides; connections whose GUID cannot be read have no say, wherever they stand. -/
theorem ensureNotSharedFirstMatch (i : Inspector κ σ γ) (deviceId : String) (s : σ) :
    let answers := i.answers deviceId s
    let watched := (ensureNotShared i.watched deviceId).run s
    watched.unnoted = (ensureNotShared i deviceId).run s ∧
      watched.result = answers.verdict deviceId ∧
      Trace.notes watched.trace = answers.reads deviceId ∧
      ∀ other : Answers γ, other.readable = answers.readable →
        other.verdict deviceId = watched.result := by
  intro answers watched
  obtain ⟨s', run⟩ := ensureNotSharedYields i deviceId s
  refine ⟨ensureNotSharedEchoes i deviceId s, run.result, run.seen, fun other same => ?_⟩
  calc other.verdict deviceId
    _ = other.readable.verdict deviceId := (Answers.verdictReadable deviceId other).symm
    _ = answers.readable.verdict deviceId := by rw [same]
    _ = answers.verdict deviceId := Answers.verdictReadable deviceId answers
    _ = watched.result := run.result.symm

end VmBridge.Sharing
