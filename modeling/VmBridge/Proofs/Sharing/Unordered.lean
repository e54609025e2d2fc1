import VmBridge.Proofs.Sharing.FirstMatch
import VmBridge.Rehearsal.Sharing
/-! What the order of a listing decides. Where one adapter at most is meant and no two connections
go by the same GUID, a check ends the same however adapters and connections are listed, and
whatever else is listed beside them. -/
namespace VmBridge.Sharing

inductive Alike {α : Type} (counts : α → Bool) : List α → List α → Prop where
  | reordered {l m : List α} (same : l.Perm m) : Alike counts l m
  | added (a : α) (l : List α) (silent : counts a = false) : Alike counts l (a :: l)
  | removed (a : α) (l : List α) (silent : counts a = false) : Alike counts (a :: l) l
  | next {l m n : List α} (first : Alike counts l m) (later : Alike counts m n) : Alike counts l n

section Alike
variable {α : Type} {counts p : α → Bool} {l m : List α}

-- What satisfies `p` counts, so nothing that was added or removed satisfies it.
theorem alikeFilter (h : Alike counts l m) (counted : ∀ a, p a = true → counts a = true) :
    (l.filter p).Perm (m.filter p) := by
  have unheard : ∀ a, counts a = false → ¬ p a = true := fun a silent heard => by
    rw [counted a heard] at silent
    cases silent
  induction h with
  | reordered same => exact same.filter p
  | added a l silent => rw [List.filter_cons_of_neg (unheard a silent)]
  | removed a l silent => rw [List.filter_cons_of_neg (unheard a silent)]
  | next _ _ ih ih' => exact ih.trans ih'

theorem permFind (same : (l.filter p).Perm (m.filter p)) (one : (l.filter p).length ≤ 1) :
    l.find? p = m.find? p := by
  rw [← List.head?_filter, ← List.head?_filter]
  match kept : l.filter p with
  | [] =>
    rw [kept] at same
    rw [same.nil_eq]
  | [a] =>
    rw [kept] at same
    rw [← List.singleton_perm.mp same]
  | a :: b :: rest => simp [kept] at one

end Alike

section Distinct
variable {γ : Type}

def Distinct (heard : List (Heard γ)) : Prop :=
  heard.Pairwise fun a b => ∀ guid other, a.guid = .ok guid → b.guid = .ok other →
    sameGuid guid other = false

theorem isOfGuid {instanceId : String} {h : Heard γ} (same : h.isOf instanceId = true) :
    ∃ guid, h.guid = .ok guid ∧ sameGuid guid instanceId = true := by
  unfold Heard.isOf at same
  split at same
  · rename_i guid read
    exact ⟨guid, read, same⟩
  · cases same

theorem distinctOne {heard : List (Heard γ)} (distinct : Distinct heard) (instanceId : String) :
    (heard.filter (·.isOf instanceId)).length ≤ 1 := by
  have apart := List.Pairwise.filter (·.isOf instanceId) distinct
  have own : ∀ h ∈ heard.filter (·.isOf instanceId), h.isOf instanceId = true :=
    fun h mem => (List.mem_filter.mp mem).2
  match kept : heard.filter (·.isOf instanceId) with
  | [] | [_] => simp [kept]
  | a :: b :: rest =>
    rw [kept] at apart own
    obtain ⟨guid, read, same⟩ := isOfGuid (own a (by simp))
    obtain ⟨other, read', same'⟩ := isOfGuid (own b (by simp))
    have different := (List.pairwise_cons.mp apart).1 b (by simp) guid other read read'
    rw [sameGuidComm] at same'
    rw [sameGuidTrans same same'] at different
    cases different

end Distinct

def Heard.unnamed {γ : Type} (h : Heard γ) : Heard Unit := ⟨(), h.guid, h.shared⟩

structure Inspector.AnswersFrom {κ σ γ : Type} (i : Inspector κ σ γ) (deviceId : String)
    (adapters : List Adapter) (heard : List (Heard Unit)) : Prop where
  adapter : ∀ s, ((i.instanceId deviceId).run s).result = .ok (matchAdapter adapters deviceId)
  connections : ∀ s, ∃ listed, (i.connections.run s).result = .ok listed ∧
    ∀ s', (i.hear s' listed).map Heard.unnamed = heard

section AnswersFrom
variable {κ σ γ κ' σ' γ' : Type} {deviceId : String}
variable {adapters adapters' : List Adapter} {heard heard' : List (Heard Unit)}

theorem decidedUnnamed (instanceId : String) (heard : List (Heard γ)) :
    Answers.decided deviceId instanceId (heard.map Heard.unnamed) =
      Answers.decided deviceId instanceId heard := by
  have own : (fun h : Heard γ => h.unnamed.isOf instanceId) = (·.isOf instanceId) := rfl
  simp only [Answers.decided, List.find?_map, Function.comp_def, own]
  cases heard.find? (·.isOf instanceId) <;> rfl

theorem answersFromVerdict {i : Inspector κ σ γ} (h : i.AnswersFrom deviceId adapters heard)
    (s : σ) : ((ensureNotShared i deviceId).run s).result =
      Answers.verdict deviceId ⟨.ok (matchAdapter adapters deviceId), .ok heard⟩ := by
  rw [ensureNotSharedVerdict]
  obtain ⟨listed, answer, steady⟩ := h.connections ((i.instanceId deviceId).run s).state
  simp only [Inspector.answers, Inspector.listed, Answers.verdict, h.adapter, answer, Except.map,
    Except.bind]
  cases matchAdapter adapters deviceId with
  | none => rfl
  | some instanceId =>
    dsimp only
    rw [← steady, decidedUnnamed]

theorem matchAdapterAlike (same : Alike (·.isMeantBy deviceId) adapters adapters')
    (one : (adapters.filter (·.isMeantBy deviceId)).length ≤ 1) :
    matchAdapter adapters deviceId = matchAdapter adapters' deviceId := by
  unfold matchAdapter
  rw [permFind (alikeFilter same fun _ => id) one]

theorem decidedAlike (same : Alike Heard.isReadable heard heard') (distinct : Distinct heard)
    (instanceId : String) :
    Answers.decided deviceId instanceId heard = Answers.decided deviceId instanceId heard' := by
  unfold Answers.decided
  rw [permFind (alikeFilter same fun _ => Heard.isOfReadable) (distinctOne distinct instanceId)]

/-- A check ends the same on any two inspectors whose lists differ in order and in what has no
say. -/
theorem ensureNotSharedUnordered {i : Inspector κ σ γ} {j : Inspector κ' σ' γ'}
    (asked : i.AnswersFrom deviceId adapters heard)
    (asked' : j.AnswersFrom deviceId adapters' heard')
    (one : (adapters.filter (·.isMeantBy deviceId)).length ≤ 1) (distinct : Distinct heard)
    (adaptersAlike : Alike (·.isMeantBy deviceId) adapters adapters')
    (heardAlike : Alike Heard.isReadable heard heard') (s : σ) (s' : σ') :
    ((ensureNotShared i deviceId).run s).result =
      ((ensureNotShared j deviceId).run s').result := by
  rw [answersFromVerdict asked, answersFromVerdict asked', ← matchAdapterAlike adaptersAlike one]
  unfold Answers.verdict
  cases matchAdapter adapters deviceId with
  | none => rfl
  | some instanceId => exact decidedAlike heardAlike distinct instanceId

end AnswersFrom

section Rehearsal
open Rehearsal (Surroundings Inspection)
variable {κ σ : Type}

def heardFrom (c : Rehearsal.Connection) : Heard Unit := ⟨(), c.guid, c.shared⟩

theorem recordedResult {α : Type} (call : κ) (answer : Except Fault α) (s : σ) :
    ((Act.call call >>= fun _ => Act.ofExcept answer).run s).result = answer :=
  (Act.yieldsOk (Act.yieldsCall call s) (Act.yieldsOfExcept answer s)).result

theorem rehearsedHeard (given : Surroundings) (recorded : Inspection → κ)
    (connections : List Rehearsal.Connection) (index : Nat) (s : σ) :
    ((given.inspector recorded).hear s ((connections.zipIdx index).map fun (c, i) => (i, c))).map
      Heard.unnamed = connections.map heardFrom := by
  induction connections generalizing index s with
  | nil => rfl
  | cons c rest ih =>
    refine List.cons_eq_cons.mpr ⟨?_, ih (index + 1) _⟩
    have guid := recordedResult (recorded (.guid index)) c.guid s
    have shared := recordedResult (recorded (.sharing index)) c.shared
      (((given.inspector recorded).guid (index, c)).run s).state
    exact Heard.mk.injEq .. ▸ ⟨rfl, guid, shared⟩

theorem rehearsedAnswers (deviceId : String) (adapters : List Adapter)
    (connections : List Rehearsal.Connection) (recorded : Inspection → κ) :
    (Surroundings.inspector (σ := σ) ⟨.ok adapters, .ok connections⟩ recorded).AnswersFrom deviceId
      adapters (connections.map heardFrom) where
  adapter _ := rfl
  connections _ := ⟨connections.zipIdx.map fun (c, i) => (i, c), rfl,
    rehearsedHeard ⟨.ok adapters, .ok connections⟩ recorded connections 0⟩

theorem sharedFoundReordered :
    let own : Adapter := ⟨"A1", some "PCI-1"⟩
    let other : Adapter := ⟨"B2", none⟩
    let shared : Rehearsal.Connection := ⟨.ok "a1", .ok true⟩
    let failing : Rehearsal.Connection := ⟨.ok "b2", .error (.sharing "denied")⟩
    let unreadable : Rehearsal.Connection := ⟨.error (.sharing "gone"), .ok false⟩
    let verdict := fun adapters connections => ((ensureNotShared (Surroundings.inspector
      ⟨.ok adapters, .ok connections⟩ id) "pci-1").run ()).result
    verdict [other, own] [failing, unreadable, shared] = verdict [own] [shared, failing] ∧
      verdict [own] [shared, failing] = .error (.sharedConnection "pci-1") := by
  intro own other shared failing unreadable verdict
  have adaptersAlike : Alike (·.isMeantBy "pci-1") [other, own] [own] :=
    .removed other [own] (by decide)
  have heardAlike : Alike Heard.isReadable ([failing, unreadable, shared].map heardFrom)
      ([shared, failing].map heardFrom) :=
    .next (.reordered (List.Perm.swap _ _ _)) (.next (.removed _ _ rfl)
      (.reordered (List.Perm.swap _ _ _)))
  have distinct : Distinct ([failing, unreadable, shared].map heardFrom) := by
    simp [Distinct, heardFrom, failing, unreadable, shared]
    decide
  refine ⟨ensureNotSharedUnordered (rehearsedAnswers _ _ _ _) (rehearsedAnswers _ _ _ _) (by decide)
    distinct adaptersAlike heardAlike () (), ?_⟩
  refine (answersFromVerdict (rehearsedAnswers "pci-1" [own] [shared, failing] id) ()).trans ?_
  have meant : matchAdapter [own] "pci-1" = some "A1" := by decide
  have first : (heardFrom shared).isOf "A1" = true := by decide
  simp only [Answers.verdict, meant, Except.bind, Answers.decided, List.map_cons,
    List.find?_cons_of_pos first]
  rfl

end Rehearsal
end VmBridge.Sharing
