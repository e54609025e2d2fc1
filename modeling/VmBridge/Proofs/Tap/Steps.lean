import VmBridge.Proofs.Runs
import VmBridge.Tap.Control
/-! Steps on a control device, taken in order. The requests that are made are those of the
steps that were granted and of the first one that was not, whose fault lists the others. -/
namespace VmBridge

namespace Effect
variable {κ : Type}

def unlogged? : Effect κ → Option (Effect κ)
  | log _ => none
  | e => some e

end Effect

namespace Trace
variable {κ : Type}

def unlogged (t : List (Effect κ)) : List (Effect κ) := t.filterMap Effect.unlogged?

theorem viewUnlogged {τ : Type} {view : Effect κ → Option τ} (quiet : ∀ r, view (.log r) = none)
    (t : List (Effect κ)) : (unlogged t).filterMap view = t.filterMap view := by
  unfold unlogged
  rw [List.filterMap_filterMap]
  congr 1
  funext e
  cases e with
  | log r => exact (quiet r).symm
  | call | out | err => rfl

theorem callsUnlogged (t : List (Effect κ)) : calls (unlogged t) = calls t :=
  viewUnlogged (fun _ => rfl) t

end Trace

def Ran.unlogged {κ σ α : Type} (r : Ran κ σ α) : Ran κ σ α :=
  ⟨r.result, r.state, Trace.unlogged r.trace⟩

theorem Act.yieldsUnlogged {κ σ α : Type} {x : Act κ σ α} {s s' : σ} {trace : List (Effect κ)}
    {result : Except Fault α} (h : Act.Yields Effect.unlogged? x s trace result s') :
    (x.run s).unlogged = ⟨result, s', trace⟩ := by
  unfold Ran.unlogged Trace.unlogged
  rw [h.result, h.seen, h.state]

theorem argumentWraps (id : UInt32) : id.toInt32.toInt % 0x100000000 = id.toNat := by
  have whole : id.toInt32.toInt = (id.toNat : Int).bmod 0x100000000 :=
    id.toBitVec.toInt_eq_toNat_bmod
  have small : id.toNat < 0x100000000 := id.toNat_lt
  rw [whole]
  simp only [Int.bmod]
  omega

namespace Tap
open Text (Bytes)
variable {κ σ : Type}

theorem idSent (code : Nat) (id : UInt32) : ∃ argument,
    Call.setInt code id.toInt32 = .setInt code argument ∧
      argument.toInt % 0x100000000 = id.toNat :=
  ⟨id.toInt32, rfl, argumentWraps id⟩

inductive Granted (d : Driver κ σ) : σ → List Call → σ → Prop where
  | none (s : σ) : Granted d s [] s
  | next {s calls s'} (call : Call) (grants : (d.request call s).1 = 0)
      (rest : Granted d (d.request call s).2 calls s') : Granted d s (call :: calls) s'

inductive Stepped (d : Driver κ σ) (name : String) : List TapStep → List (TapStep × Call) → σ →
    List Call → Except Fault (List TapStep) → σ → Prop where
  | done (applied : List TapStep) (s : σ) : Stepped d name applied [] s [] (.ok applied) s
  | refused {applied step call rest s} (refuses : (d.request call s).1 ≠ 0) :
      Stepped d name applied ((step, call) :: rest) s [call]
        (.error (.tapSetup name step applied (.os (Errno.reported (d.request call s).1))))
        (d.request call s).2
  | granted {applied step call rest s calls result s'} (grants : (d.request call s).1 = 0)
      (later : Stepped d name (applied ++ [step]) rest (d.request call s).2 calls result s') :
      Stepped d name applied ((step, call) :: rest) s (call :: calls) result s'

def Driver.opened (d : Driver κ σ) (device : Bytes) : Effect κ :=
  .call (d.recorded (.opening device))

def Driver.asked (d : Driver κ σ) (calls : List Call) : List (Effect κ) :=
  calls.map fun call => .call (d.recorded (.request call))

-- Any device opens; requests end with the listed numbers, and those after them are granted.
def Driver.scripted : Driver Access (List Int) where
  recorded := id
  openDevice _ := none
  request _ answers := (answers.headD 0, answers.tail)

theorem callsAsked (d : Driver κ σ) (calls : List Call) :
    Trace.calls (d.asked calls) = calls.map fun call => d.recorded (.request call) := by
  induction calls with
  | nil => rfl
  | cons call rest ih => exact congrArg (d.recorded (.request call) :: ·) ih

theorem applyYields (d : Driver κ σ) (c : Control) (step : TapStep) (call : Call) (s : σ) :
    Act.Yields Effect.unlogged? (c.apply d step call) s (d.asked [call])
      (.ok (if (d.request call s).1 = 0 then (.ok (), ⟨c.interface, c.applied ++ [step]⟩)
        else (.error (.tapSetup c.interface step c.applied
          (.os (Errno.reported (d.request call s).1))), c)))
      (d.request call s).2 := by
  refine Act.yieldsOk (Act.yieldsEmit (by rfl) s) (Act.yieldsOk (Act.yieldsTake _ s) ?_)
  dsimp only
  split
  · exact Act.yieldsOk (Act.yieldsQuiet rfl _) (Act.yieldsPure _ _)
  · exact Act.yieldsOk (Act.yieldsQuiet rfl _) (Act.yieldsPure _ _)

theorem setAllStepped (d : Driver κ σ) (settings : List Setting) (c : Control) (s : σ) :
    ∃ calls result s', Act.Yields Effect.unlogged? (c.setAll d settings) s (d.asked calls)
        (result.map fun applied => ⟨c.interface, applied⟩) s' ∧
      Stepped d c.interface c.applied (settings.map fun x => (x.step, x.call)) s calls result
        s' := by
  induction settings generalizing c s with
  | nil => exact ⟨[], .ok c.applied, s, Act.yieldsPure c s, .done c.applied s⟩
  | cons x rest ih =>
    have first := applyYields d c x.step x.call s
    by_cases grants : (d.request x.call s).1 = 0
    · rw [if_pos grants] at first
      obtain ⟨calls, result, s', run, later⟩ :=
        ih ⟨c.interface, c.applied ++ [x.step]⟩ (d.request x.call s).2
      exact ⟨x.call :: calls, result, s',
        Act.yieldsOk first (Act.yieldsOk (Act.yieldsPure () _) run), .granted grants later⟩
    · rw [if_neg grants] at first
      exact ⟨[x.call], _, _, Act.yieldsOk first (Act.yieldsError (Act.yieldsFail _ _)),
        .refused grants⟩

section Attach
variable (d : Driver κ σ) (device : Bytes) {name : String} (s : σ)

theorem attachUnnamed {e : Fault} (unnamed : nameBytes name = .error e) :
    Act.Yields Effect.unlogged? (Control.attach d device name) s [] (.error e) s := by
  unfold Control.attach
  rw [unnamed]
  exact Act.yieldsError (Act.yieldsFail e s)

theorem attachUnopened {bytes : Bytes} {cause : IoFault} (named : nameBytes name = .ok bytes)
    (refuses : d.openDevice device = some cause) :
    Act.Yields Effect.unlogged? (Control.attach d device name) s [d.opened device]
      (.error (.tapOpen device cause)) s := by
  unfold Control.attach
  rw [named, refuses]
  exact Act.yieldsOk (Act.yieldsPure bytes s)
    (Act.yieldsOk (Act.yieldsEmit (by rfl) s) (Act.yieldsFail _ s))

theorem attachYields {bytes : Bytes} (named : nameBytes name = .ok bytes)
    (opens : d.openDevice device = none) :
    Act.Yields Effect.unlogged? (Control.attach d device name) s
      (d.opened device :: d.asked [.attachTo bytes])
      (if (d.request (.attachTo bytes) s).1 = 0 then .ok ⟨name, [.attach]⟩
        else .error (.tapSetup name .attach []
          (.os (Errno.reported (d.request (.attachTo bytes) s).1))))
      (d.request (.attachTo bytes) s).2 := by
  unfold Control.attach
  rw [named, opens]
  have asked := applyYields d ⟨name, []⟩ .attach (.attachTo bytes) s
  refine Act.yieldsOk (Act.yieldsPure bytes s) (Act.yieldsOk (Act.yieldsEmit (by rfl) s) ?_)
  by_cases grants : (d.request (.attachTo bytes) s).1 = 0
  · rw [if_pos grants] at asked ⊢
    exact Act.yieldsOk asked (Act.yieldsOk (Act.yieldsPure () _) (Act.yieldsPure _ _))
  · rw [if_neg grants] at asked ⊢
    exact Act.yieldsOk asked (Act.yieldsError (Act.yieldsFail _ _))

theorem attachedStepped {bytes : Bytes} (settings : List Setting)
    (named : nameBytes name = .ok bytes) (opens : d.openDevice device = none) :
    ∃ calls result s', Act.Yields Effect.unlogged? (Control.attach d device name >>= fun c =>
        c.setAll d settings >>= fun _ => pure ()) s (d.opened device :: d.asked calls)
        (result.map fun _ => ()) s' ∧
      Stepped d name [] ((.attach, .attachTo bytes) :: settings.map fun x => (x.step, x.call)) s
        calls result s' := by
  have first := attachYields d device s named opens
  by_cases grants : (d.request (.attachTo bytes) s).1 = 0
  · rw [if_pos grants] at first
    obtain ⟨calls, result, s', run, stepped⟩ :=
      setAllStepped d settings ⟨name, [.attach]⟩ (d.request (.attachTo bytes) s).2
    refine ⟨.attachTo bytes :: calls, result, s', ?_, .granted grants stepped⟩
    have rest := Act.yieldsMap (fun _ => ()) run
    cases result <;> exact Act.yieldsOk first rest
  · rw [if_neg grants] at first
    exact ⟨_, _, _, Act.yieldsError first, .refused grants⟩

end Attach

theorem grantedAppend {d : Driver κ σ} {s s' : σ} {first last : List Call} :
    Granted d s (first ++ last) s' ↔ ∃ m, Granted d s first m ∧ Granted d m last s' := by
  constructor
  · intro h
    induction first generalizing s with
    | nil => exact ⟨s, .none s, h⟩
    | cons call rest ih =>
      cases h with
      | next _ grants later =>
        obtain ⟨m, before, after⟩ := ih later
        exact ⟨m, .next call grants before, after⟩
  · rintro ⟨m, before, after⟩
    induction before with
    | none s => exact after
    | next call grants _ ih => exact .next call grants (ih after)

theorem grantedSame {d : Driver κ σ} {s a b : σ} {calls : List Call} (h : Granted d s calls a)
    (h' : Granted d s calls b) : a = b := by
  induction h with
  | none s =>
    cases h'
    rfl
  | next call grants _ ih =>
    cases h' with
    | next _ _ later => exact ih later

theorem refusedUngranted {d : Driver κ σ} {s before last : σ} {front rest : List Call} {call : Call}
    (granted : Granted d s front before) (refuses : (d.request call before).1 ≠ 0) :
    ¬ Granted d s (front ++ call :: rest) last := by
  intro all
  obtain ⟨m, first, later⟩ := grantedAppend.mp all
  cases grantedSame first granted
  cases later with
  | next _ grants _ => exact refuses grants

theorem frontAsked {front rest calls : List Call} {call : Call} (fresh : call ∉ front)
    (begins : calls <+: front ++ call :: rest) (asked : call ∈ calls) :
    front ++ [call] <+: calls := by
  rcases List.prefix_or_prefix_of_prefix begins (List.prefix_append front (call :: rest)) with
    short | ⟨later, rfl⟩
  · exact absurd (short.subset asked) fresh
  · have within := (List.prefix_append_right_inj front).mp begins
    cases later with
    | nil => exact absurd (by simpa using asked) fresh
    | cons first later =>
      obtain ⟨rfl, -⟩ := List.cons_prefix_cons.mp within
      exact ⟨later, by simp⟩

section Stepped
variable {d : Driver κ σ} {name : String} {applied : List TapStep}
variable {steps : List (TapStep × Call)} {s s' : σ} {calls : List Call}
variable {result : Except Fault (List TapStep)}

theorem steppedEnd (h : Stepped d name applied steps s calls result s') :
    (calls = steps.map Prod.snd ∧ Granted d s calls s' ∧
        result = .ok (applied ++ steps.map Prod.fst)) ∨
      ∃ done step call rest before, steps = done ++ (step, call) :: rest ∧
        Granted d s (done.map Prod.snd) before ∧ (d.request call before).1 ≠ 0 ∧
        calls = done.map Prod.snd ++ [call] ∧ s' = (d.request call before).2 ∧
        result = .error (.tapSetup name step (applied ++ done.map Prod.fst)
          (.os (Errno.reported (d.request call before).1))) := by
  induction h with
  | done applied s => exact Or.inl ⟨rfl, .none s, by simp⟩
  | @refused applied step call rest s refuses =>
    exact Or.inr ⟨[], step, call, rest, s, rfl, .none s, refuses, rfl, rfl, by simp⟩
  | @granted applied step call rest s calls result s' grants later ih =>
    rcases ih with ⟨same, all, result⟩ | ⟨done, failed, asked, rest, before, split, all, refuses,
      same, state, result⟩
    · exact Or.inl ⟨by simp [same], .next call grants all, by simp [result]⟩
    · exact Or.inr ⟨(step, call) :: done, failed, asked, rest, before, by simp [split],
        .next call grants all, refuses, by simp [same], state, by simp [result]⟩

theorem steppedSucceeds (h : Stepped d name applied steps s calls result s') :
    result.map (fun _ => ()) = .ok () ↔ ∃ last, Granted d s (steps.map Prod.snd) last := by
  rcases steppedEnd h with ⟨rfl, granted, rfl⟩ |
    ⟨done, step, call, rest, before, split, granted, refuses, rfl, rfl, rfl⟩
  · exact ⟨fun _ => ⟨s', granted⟩, fun _ => rfl⟩
  · refine ⟨fun same => (by cases same), fun ⟨last, all⟩ => ?_⟩
    rw [split, List.map_append, List.map_cons] at all
    exact absurd all (refusedUngranted granted refuses)

end Stepped
end Tap
end VmBridge
