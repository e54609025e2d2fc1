import VmBridge.Proofs.Tap.Steps
/-! Settings on an attached control device, in any number, each of them tried whatever became of
those before it. Every setting is one request. The steps that the control lists are the first one
and those that were granted; a setting that was not granted leaves the list as it was, and its
fault carries that list. -/
namespace VmBridge.Tap
open Text (Bytes)
variable {κ σ : Type}

namespace Driver

def answers (d : Driver κ σ) : σ → List Call → List Int
  | _, [] => []
  | s, call :: rest => (d.request call s).1 :: d.answers (d.request call s).2 rest

def after (d : Driver κ σ) : σ → List Call → σ
  | s, [] => s
  | s, call :: rest => d.after (d.request call s).2 rest

def grantedSteps (d : Driver κ σ) (s : σ) (settings : List Setting) : List TapStep :=
  ((settings.zip (d.answers s (settings.map Setting.call))).filter (·.2 = 0)).map (·.1.step)

theorem grantedStepsNext (d : Driver κ σ) (s : σ) (x : Setting) (rest : List Setting) :
    d.grantedSteps s (x :: rest) = (if (d.request x.call s).1 = 0 then [x.step] else []) ++
      d.grantedSteps (d.request x.call s).2 rest := by
  by_cases grants : (d.request x.call s).1 = 0 <;> simp [grantedSteps, answers, grants]

theorem answersAt (d : Driver κ σ) (s : σ) {settings : List Setting} {k : Nat} {x : Setting}
    (asked : settings[k]? = some x) : (d.answers s (settings.map Setting.call))[k]? =
      some (d.request x.call (d.after s ((settings.take k).map Setting.call))).1 := by
  induction settings generalizing s k with
  | nil => cases asked
  | cons y rest ih =>
    cases k with
    | zero =>
      cases asked
      rfl
    | succ k => exact ih _ asked

end Driver

def stepCode : TapStep → Nat
  | .attach => 0x400454ca
  | .owner => 0x400454cc
  | .group => 0x400454ce
  | .persist | .unpersist => 0x400454cb

def Setting.number : Setting → Nat
  | owner id | group id => id.toNat
  | persist on => if on then 1 else 0

theorem settingSent (x : Setting) : ∃ argument,
    x.call = .setInt (stepCode x.step) argument ∧ argument.toInt % 0x100000000 = x.number := by
  cases x with
  | owner id => exact idSent _ id
  | group id => exact idSent _ id
  | persist on => cases on <;> exact ⟨_, rfl, by decide⟩

namespace Control

def held (c : Control) (seen : List (Tried κ)) : Control := seen.foldl (fun _ one => one.control) c

def Makes (d : Driver κ σ) (c : Control) (x : Setting) (s : σ) (one : Tried κ) : Prop :=
  (c.set d x).run s = ⟨.ok (one.result, one.control), (d.request x.call s).2, one.trace⟩

theorem setMakes (d : Driver κ σ) (c : Control) (x : Setting) (s : σ) :
    ∃ one, c.Makes d x s one := by
  have run := applyYields d c x.step x.call s
  obtain ⟨outcome, same⟩ : ∃ outcome, ((c.set d x).run s).result = .ok outcome := ⟨_, run.result⟩
  refine ⟨⟨outcome.1, outcome.2, ((c.set d x).run s).trace⟩, ?_⟩
  change _ = Ran.mk (.ok outcome) _ _
  rw [← same, ← run.state]
  rfl

end Control

inductive Recorded (d : Driver κ σ) : Control → σ → List Setting → List (Control.Tried κ) → Prop where
  | done (c : Control) (s : σ) : Recorded d c s [] []
  | next {c s rest one later} (x : Setting) (ran : c.Makes d x s one)
      (going : Recorded d one.control (d.request x.call s).2 rest later) :
      Recorded d c s (x :: rest) (one :: later)

section Makes
variable {d : Driver κ σ} {c : Control} {x : Setting} {s : σ} {one : Control.Tried κ}

theorem ranAsks (h : c.Makes d x s one) : Trace.unlogged one.trace = d.asked [x.call] := by
  have seen := (applyYields d c x.step x.call s).seen
  have trace : ((c.set d x).run s).trace = one.trace := congrArg Ran.trace h
  rwa [← trace]

theorem ranOutcome (h : c.Makes d x s one) : (one.result, one.control) =
    if (d.request x.call s).1 = 0 then (.ok (), ⟨c.interface, c.applied ++ [x.step]⟩)
    else (.error (.tapSetup c.interface x.step c.applied
      (.os (Errno.reported (d.request x.call s).1))), c) := by
  have result := (applyYields d c x.step x.call s).result
  have same : ((c.set d x).run s).result = .ok (one.result, one.control) :=
    congrArg Ran.result h
  exact Except.ok.inj (same.symm.trans result)

theorem ranGranted (h : c.Makes d x s one) (grants : (d.request x.call s).1 = 0) :
    one.result = .ok () ∧ one.control = ⟨c.interface, c.applied ++ [x.step]⟩ := by
  have outcome := ranOutcome h
  rw [if_pos grants] at outcome
  exact ⟨congrArg Prod.fst outcome, congrArg Prod.snd outcome⟩

theorem ranRefused (h : c.Makes d x s one) (refuses : (d.request x.call s).1 ≠ 0) :
    one.result = .error (.tapSetup c.interface x.step c.applied
      (.os (Errno.reported (d.request x.call s).1))) ∧ one.control = c := by
  have outcome := ranOutcome h
  rw [if_neg refuses] at outcome
  exact ⟨congrArg Prod.fst outcome, congrArg Prod.snd outcome⟩

theorem ranControl (h : c.Makes d x s one) : one.control =
    ⟨c.interface, c.applied ++ if (d.request x.call s).1 = 0 then [x.step] else []⟩ := by
  by_cases grants : (d.request x.call s).1 = 0
  · rw [(ranGranted h grants).2, if_pos grants]
  · rw [(ranRefused h grants).2, if_neg grants, List.append_nil]

end Makes

theorem sessionRecorded (d : Driver κ σ) (settings : List Setting) (c : Control) (s : σ) :
    ∃ seen, Act.Yields Effect.unlogged? (c.session d settings) s
        (d.asked (settings.map Setting.call)) (.ok seen)
        (d.after s (settings.map Setting.call)) ∧
      Recorded d c s settings seen := by
  induction settings generalizing c s with
  | nil => exact ⟨[], Act.yieldsPure [] s, .done c s⟩
  | cons x rest ih =>
    obtain ⟨one, ran⟩ := c.setMakes d x s
    have first : Act.Yields Effect.unlogged? (c.set d x).traced s (d.asked [x.call])
        (.ok ((one.result, one.control), one.trace)) (d.request x.call s).2 := by
      have run : (c.set d x).traced.run s = ⟨.ok ((one.result, one.control), one.trace),
          (d.request x.call s).2, one.trace⟩ := by rw [Act.runTraced, ran]; rfl
      constructor <;> rw [run]
      exact ranAsks ran
    obtain ⟨later, run, recorded⟩ := ih one.control (d.request x.call s).2
    exact ⟨one :: later, Act.yieldsOk first (Act.yieldsMap (one :: ·) run), .next x ran recorded⟩

section Recorded
variable {d : Driver κ σ} {c : Control} {s : σ} {settings : List Setting}
variable {seen : List (Control.Tried κ)}

theorem recordedHeld (h : Recorded d c s settings seen) (k : Nat) :
    c.held (seen.take k) =
      ⟨c.interface, c.applied ++ d.grantedSteps s (settings.take k)⟩ := by
  induction h generalizing k with
  | done c s => simp [Control.held, Driver.grantedSteps]
  | @next c s rest one later x ran going ih =>
    cases k with
    | zero => simp [Control.held, Driver.grantedSteps]
    | succ k =>
      have tail := ih k
      rw [ranControl ran] at tail
      rw [List.take_succ_cons, List.take_succ_cons, Driver.grantedStepsNext,
        ← List.append_assoc]
      simpa only [Control.held, List.foldl_cons, ranControl ran] using tail

theorem recordedAt (h : Recorded d c s settings seen) {k : Nat} {x : Setting}
    (asked : settings[k]? = some x) : ∃ one, seen[k]? = some one ∧
      (c.held (seen.take k)).Makes d x (d.after s ((settings.take k).map Setting.call)) one := by
  induction h generalizing k with
  | done c s => cases asked
  | @next c s rest one later y ran going ih =>
    cases k with
    | zero =>
      cases asked
      exact ⟨one, rfl, ran⟩
    | succ k => exact ih asked

theorem recordedLength (h : Recorded d c s settings seen) : seen.length = settings.length := by
  induction h with
  | done => rfl
  | next x ran going ih => exact congrArg (· + 1) ih

end Recorded

def attachedSession (d : Driver κ σ) (device : Bytes) (name : String) (settings : List Setting) :
    Act κ σ (List (Control.Tried κ)) := do
  let c ← Control.attach d device name
  c.session d settings

structure Tells (d : Driver κ σ) (c : Control) (s : σ) (settings : List Setting)
    (seen : List (Control.Tried κ)) (k : Nat) (x : Setting) (one : Control.Tried κ)
    (errno : Int) : Prop where
  shown : seen[k]? = some one
  answered : (d.answers s (settings.map Setting.call))[k]? = some errno
  ran : (c.held (seen.take k)).Makes d x (d.after s ((settings.take k).map Setting.call)) one
  asks : Trace.unlogged one.trace = d.asked [x.call]
  sends : ∃ argument, x.call = .setInt (stepCode x.step) argument ∧
    argument.toInt % 0x100000000 = x.number
  granted : errno = 0 → one.result = .ok () ∧ one.control =
    ⟨c.interface, c.applied ++ d.grantedSteps s (settings.take k) ++ [x.step]⟩
  refused : errno ≠ 0 → one.result = .error (.tapSetup c.interface x.step
    (c.applied ++ d.grantedSteps s (settings.take k)) (.os (Errno.reported errno)))
  kept : errno ≠ 0 → one.control =
    ⟨c.interface, c.applied ++ d.grantedSteps s (settings.take k)⟩

theorem recordedTells {d : Driver κ σ} {c : Control} {s : σ} {settings : List Setting}
    {seen : List (Control.Tried κ)} (h : Recorded d c s settings seen) {k : Nat} {x : Setting}
    (asked : settings[k]? = some x) : ∃ one errno, Tells d c s settings seen k x one errno := by
  obtain ⟨one, shown, ran⟩ := recordedAt h asked
  have before := recordedHeld h k
  refine ⟨one, _, {
    shown
    answered := d.answersAt s asked
    ran
    asks := ranAsks ran
    sends := settingSent x
    granted := fun grants => ?_
    refused := fun refuses => ?_
    kept := fun refuses => (ranRefused ran refuses).2.trans before }⟩
  · have both := ranGranted ran grants
    rwa [before] at both
  · have result := (ranRefused ran refuses).1
    rwa [before] at result

/-- A session that begins with attaching an accepted name on a device that opens: nothing is asked
after an attachment that is refused, and else every setting is asked for once, in order, and told
of with the steps that were granted before it. -/
theorem attachedSessionTells (d : Driver κ σ) (device : Bytes) {name : String} {bytes : Bytes}
    (settings : List Setting) (s : σ) (named : nameBytes name = .ok bytes)
    (opens : d.openDevice device = none) :
    let attached := d.request (.attachTo bytes) s
    let ran := ((attachedSession d device name settings).run s).unlogged
    (attached.1 ≠ 0 → ran = ⟨.error (.tapSetup name .attach [] (.os (Errno.reported attached.1))),
        attached.2, d.opened device :: d.asked [.attachTo bytes]⟩) ∧
      (attached.1 = 0 → ((Control.attach d device name).run s).result = .ok ⟨name, [.attach]⟩ ∧
        ∃ seen, ran = ⟨.ok seen, d.after attached.2 (settings.map Setting.call),
            d.opened device :: d.asked (.attachTo bytes :: settings.map Setting.call)⟩ ∧
          seen.length = settings.length ∧
          (∀ k, Control.held ⟨name, [.attach]⟩ (seen.take k) =
            ⟨name, .attach :: d.grantedSteps attached.2 (settings.take k)⟩) ∧
          ∀ k x, settings[k]? = some x → ∃ one errno,
            Tells d ⟨name, [.attach]⟩ attached.2 settings seen k x one errno) := by
  have first := attachYields d device s named opens
  refine ⟨fun refuses => ?_, fun grants => ?_⟩
  · rw [if_neg refuses] at first
    exact Act.yieldsUnlogged (Act.yieldsError first)
  · rw [if_pos grants] at first
    obtain ⟨seen, run, recorded⟩ := sessionRecorded d settings ⟨name, [.attach]⟩
      (d.request (.attachTo bytes) s).2
    exact ⟨first.result, seen, Act.yieldsUnlogged (Act.yieldsOk first run), recordedLength recorded,
      recordedHeld recorded, fun k x asked => recordedTells recorded asked⟩

theorem persistRefusedLast : nameBytes "tap0" = .ok [116, 97, 112, 48] ∧
    (Driver.scripted.openDevice [] = none) ∧ ∃ seen,
      ((attachedSession .scripted [] "tap0" [.owner 7, .group 8, .owner 7, .persist true]).run
        [0, 0, 1, 0, 16]).result = .ok seen ∧
      ∃ one, seen[3]? = some one ∧
        one.result = .error (.tapSetup "tap0" .persist [.attach, .owner, .owner] (.os 16)) ∧
        one.control = ⟨"tap0", [.attach, .owner, .owner]⟩ := by
  have named : nameBytes "tap0" = .ok [116, 97, 112, 48] := rfl
  obtain ⟨-, granted⟩ := attachedSessionTells .scripted []
    [.owner 7, .group 8, .owner 7, .persist true] [0, 0, 1, 0, 16] named rfl
  obtain ⟨-, seen, run, -, -, each⟩ := granted rfl
  obtain ⟨one, errno, tells⟩ := each 3 _ rfl
  cases tells.answered
  exact ⟨named, rfl, seen, congrArg Ran.result run, one, tells.shown, tells.refused (by decide),
    tells.kept (by decide)⟩

end VmBridge.Tap
