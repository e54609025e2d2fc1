import VmBridge.Binding.Execute
import VmBridge.Proofs.Notes
/-! A backend that notes what is asked of it and how it answers. Requests carried out on it are
those carried out on the backend it watches, so its notes tell of them as well. -/
namespace VmBridge.Binding
variable {κ σ π : Type}

inductive Event (π : Type) where
  | check (deviceId : String) (answer : Except Fault Unit)
  | openConfig (answer : Except Fault Unit)
  | below (infId : String) (answer : Except Fault Nat)
  | pull (answer : Except Fault (Option π))
  | token (path : π) (answer : Except Fault String)
  | setEnabled (path : π) (on : Bool) (answer : Except Fault Unit)
  | apply (answer : Except Fault Unit)
  | close

def Enumeration.watched (pulls : Enumeration κ σ π) : Enumeration (κ ⊕ Event π) σ π :=
  pulls.map (Act.noting .pull)

def NetConfig.watched (c : NetConfig κ σ π) : NetConfig (κ ⊕ Event π) σ π where
  below infId := do
    let pulls ← (c.below infId).noting fun answer => .below infId (answer.map List.length)
    pure (Enumeration.watched pulls)
  token path := (c.token path).noting (.token path)
  setEnabled path on := (c.setEnabled path on).noting (.setEnabled path on)
  apply := c.apply.noting .apply
  close := c.close.noting fun _ => .close

def Backend.watched (b : Backend κ σ π) : Backend (κ ⊕ Event π) σ π where
  ensureNotShared deviceId := (b.ensureNotShared deviceId).noting (.check deviceId)
  openConfig := do
    let c ← b.openConfig.noting fun answer => .openConfig (answer.map fun _ => ())
    pure c.watched

theorem findPathEchoes (c : NetConfig κ σ π) (wanted : String) (pulls : Enumeration κ σ π) :
    (findPath c.watched.token wanted pulls.watched).Echoes (findPath c.token wanted pulls) := by
  induction pulls with
  | nil => exact Act.echoPure none
  | cons pull rest ih =>
    refine Act.echoBind (Act.echoAttempt (Act.echoNoting _ _)) fun pulled => ?_
    match pulled with
    | .error e => exact Act.echoBind (Act.echoLog _ _ _) fun _ => Act.echoPure none
    | .ok none => exact Act.echoPure none
    | .ok (some path) =>
      refine Act.echoBind (Act.echoAttempt (Act.echoNoting _ _)) fun read => ?_
      match read with
      | .error e => exact Act.echoBind (Act.echoLog _ _ _) fun _ => ih
      | .ok found =>
        by_cases same : found = wanted
        · simp only [same, if_true]
          exact Act.echoPure (some path)
        · simp only [same, if_false]
          exact Act.echoBind (Act.echoLog _ _ _) fun _ => ih

theorem configToggleEchoes (c : NetConfig κ σ π) (infId wanted : String) (on : Bool) :
    (c.watched.toggle infId wanted on).Echoes (c.toggle infId wanted on) := by
  refine Act.echoBindPure (Act.echoNoting _ _) fun pulls => ?_
  refine Act.echoBind (findPathEchoes c wanted pulls) fun found => ?_
  match found with
  | none => exact Act.echoFail _
  | some path =>
    exact Act.echoBind (Act.echoMapFault _ (Act.echoNoting _ _)) fun _ => Act.echoNoting _ _

theorem toggleEchoes (b : Backend κ σ π) (infId wanted : String) (on : Bool) :
    (b.watched.toggle infId wanted on).Echoes (b.toggle infId wanted on) := by
  refine Act.echoBindPure (Act.echoNoting _ _) fun c => ?_
  exact Act.echoClosing (configToggleEchoes c infId wanted on) (Act.echoNoting _ _)

theorem executeEchoes (b : Backend κ σ π) (policy : Sharing.Policy) (r : Request) :
    (b.watched.execute policy r).Echoes (b.execute policy r) := by
  refine Act.echoBind ?_ fun _ => toggleEchoes b r.infId r.token r.action.enables
  unfold Backend.check
  split
  · exact Act.echoNoting _ _
  · exact Act.echoPure ()

end VmBridge.Binding
