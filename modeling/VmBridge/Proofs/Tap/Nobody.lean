import VmBridge.Proofs.Tap.Creation
/-! The id that the driver takes for no owner at all. No text of digits is read as that id; an
account that holds it, and a process that acts under it, hand it on. -/
namespace VmBridge
open Text (Bytes)

namespace Owner

def nobodyId : Id := 0xffffffff

theorem numericIdBelow (s : String) : numericId? s ≠ some nobodyId := fun read =>
  absurd (idOfCharsBelow read) (by decide)

theorem resolveNobody (directory : Directory) (name : String) :
    directory.resolve? name = some nobodyId ↔ directory.id? name = some nobodyId := by
  unfold Directory.resolve?
  cases directory.id? name with
  | some id => rfl
  | none => exact ⟨fun read => absurd read (numericIdBelow name), fun found => by cases found⟩

namespace Accounts

def ownerOnRecord? (a : Accounts) : Option String → Option Id
  | none => some a.effective
  | some name => a.users.id? name

def groupOnRecord? (a : Accounts) (name : Option String) : Option Id :=
  name.bind a.groups.id?

theorem ownerNobody (a : Accounts) (user : Option String) :
    a.ownerId user = .ok nobodyId ↔ a.ownerOnRecord? user = some nobodyId := by
  cases user with
  | none => simp [ownerId, ownerOnRecord?]
  | some name =>
    rw [ownerOnRecord?, ← resolveNobody, ownerId]
    cases a.users.resolve? name <;> simp

theorem groupNobody (a : Accounts) (group : Option String) :
    a.groupId group = .ok (some nobodyId) ↔ a.groupOnRecord? group = some nobodyId := by
  cases group with
  | none => simp [groupId, groupOnRecord?]
  | some name =>
    rw [groupOnRecord?, Option.bind_some, ← resolveNobody, groupId]
    cases a.groups.resolve? name <;> simp

end Accounts
end Owner

theorem argumentNobody (id : UInt32) : id.toInt32 = -1 ↔ id = Owner.nobodyId := by
  constructor
  · intro same
    have wraps := argumentWraps id
    rw [same] at wraps
    have small : id.toNat < 0x100000000 := id.toNat_lt
    have whole : id.toNat = Owner.nobodyId.toNat := by
      have one : (-1 : Int32).toInt = -1 := by decide
      have nobody : Owner.nobodyId.toNat = 0xffffffff := by decide
      omega
    exact UInt32.toNat_inj.mp whole
  · rintro rfl
    decide

namespace TapPlan
variable {p : TapPlan}

theorem ownerAsked {argument : Int32} :
    .setInt Tap.ownerCode argument ∈ p.steps.map Prod.snd ↔ argument = p.owner.toInt32 := by
  have group : Tap.ownerCode ≠ Tap.groupCode := by decide
  have persist : Tap.ownerCode ≠ Tap.persistCode := by decide
  cases h : p.group <;>
    simp [steps, h, Tap.Call.attachTo, Tap.Call.owner, Tap.Call.group, Tap.Call.persist, group,
      persist]

theorem groupAsked {argument : Int32} : .setInt Tap.groupCode argument ∈ p.steps.map Prod.snd ↔
    ∃ id, p.group = some id ∧ argument = id.toInt32 := by
  have owner : Tap.groupCode ≠ Tap.ownerCode := by decide
  have persist : Tap.groupCode ≠ Tap.persistCode := by decide
  cases h : p.group <;>
    simp [steps, h, Tap.Call.attachTo, Tap.Call.owner, Tap.Call.group, Tap.Call.persist, owner,
      persist]

end TapPlan

namespace Linux
variable {κ σ : Type} {l : Linux κ σ} {r : TapRequest} {p : TapPlan} {s : σ}
variable {calls : List Tap.Call} {ran : Ran κ σ Unit}

theorem nobodyOwns (h : Creation l r p s calls ran) : .setInt Tap.ownerCode (-1) ∈ calls ↔
    p.owner = Owner.nobodyId ∧ ∃ s', Tap.Granted l.driver s [.attachTo p.name] s' := by
  have fresh : Tap.Call.owner p.owner ∉ [Tap.Call.attachTo p.name] := by
    simp [Tap.Call.owner, Tap.Call.attachTo]
  have reached : .owner p.owner ∈ calls ↔ ∃ s', Tap.Granted l.driver s [.attachTo p.name] s' :=
    creationAsks h rfl fresh
  rw [← reached, ← argumentNobody]
  constructor
  · intro asked
    have same := (TapPlan.ownerAsked.mp ((creationBegins h).subset asked)).symm
    exact ⟨same, by rwa [Tap.Call.owner, same]⟩
  · rintro ⟨same, asked⟩
    rwa [Tap.Call.owner, same] at asked

theorem nobodyGroups (h : Creation l r p s calls ran) : .setInt Tap.groupCode (-1) ∈ calls ↔
    p.group = some Owner.nobodyId ∧
      ∃ s', Tap.Granted l.driver s [.attachTo p.name, .owner p.owner] s' := by
  have reached {id : Owner.Id} (grouped : p.group = some id) :
      .group id ∈ calls ↔
        ∃ s', Tap.Granted l.driver s [.attachTo p.name, .owner p.owner] s' := by
    have codes : Tap.groupCode ≠ Tap.ownerCode := by decide
    have split : p.steps.map Prod.snd =
        [.attachTo p.name, .owner p.owner] ++ .group id :: [.persist true] := by
      simp [TapPlan.steps, grouped]
    exact creationAsks h split
      (by simp [Tap.Call.group, Tap.Call.owner, Tap.Call.attachTo, codes])
  constructor
  · intro asked
    obtain ⟨id, grouped, same⟩ := TapPlan.groupAsked.mp ((creationBegins h).subset asked)
    refine ⟨(argumentNobody id).mp same.symm ▸ grouped, (reached grouped).mp ?_⟩
    rwa [Tap.Call.group, ← same]
  · rintro ⟨grouped, granted⟩
    exact (reached grouped).mpr granted

/-- No argument stands for nobody unless the system's own records hold that id, and then it is
sent as soon as the driver lets the request come so far. -/
theorem nobodyFromRecords (l : Linux κ σ) (r : TapRequest) (s : σ) : ∃ calls,
    Creates l r s calls ((l.makeTap r).run s) ∧
      (.setInt Tap.ownerCode (-1) ∈ calls ↔
        l.accounts.ownerOnRecord? r.user = some Owner.nobodyId ∧
          ∃ p s', l.settle r = .ok p ∧ Tap.Granted l.driver s [.attachTo p.name] s') ∧
      (.setInt Tap.groupCode (-1) ∈ calls ↔
        l.accounts.groupOnRecord? r.group = some Owner.nobodyId ∧
          ∃ p s', l.settle r = .ok p ∧
            Tap.Granted l.driver s [.attachTo p.name, .owner p.owner] s') := by
  cases settled : l.settle r with
  | error e => exact ⟨[], l.createsUnsettled r s settled, by simp, by simp⟩
  | ok p =>
    obtain ⟨calls, creates⟩ := l.createsSettled r s settled
    obtain ⟨owner, group, _⟩ := plannedSource (settleSource settled).1
    have creation := creates.stepwise p settled
    refine ⟨calls, creates, ?_, ?_⟩
    · rw [nobodyOwns creation, ← Owner.Accounts.ownerNobody, owner]
      simp
    · rw [nobodyGroups creation, ← Owner.Accounts.groupNobody, group]
      simp

theorem accountTakenForNobody :
    let users : Owner.Directory := fun name => if name = "ghost" then .found 4294967295 else .absent
    let l : Linux Tap.Access (List Int) :=
      ⟨⟨users, fun _ => .absent, 0⟩, .scripted, [], fun c => Act.fail (.spawn c.line (.os 2))⟩
    .request (.setInt Tap.ownerCode (-1)) ∈
      Trace.calls ((l.makeTap ⟨"tap0", some "ghost", none⟩).run []).trace := by
  decide

end Linux
end VmBridge
