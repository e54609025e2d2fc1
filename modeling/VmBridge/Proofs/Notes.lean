import VmBridge.Proofs.Runs
/-! Acts that are watched. A noted act leaves one note when it ends, beside the calls of its
own; without the notes its run is the run it had before. An act echoes another if the two
differ in notes only. -/
namespace VmBridge
variable {κ ν σ α β : Type}

namespace Effect

def mapCall (f : κ → ν) : Effect κ → Effect ν
  | call c => call (f c)
  | log r => log r
  | out bytes => out bytes
  | err bytes => err bytes

def note? : Effect (κ ⊕ ν) → Option ν
  | call (.inr n) => some n
  | _ => none

def unnoted? : Effect (κ ⊕ ν) → Option (Effect κ)
  | call (.inl c) => some (call c)
  | call (.inr _) => none
  | log r => some (log r)
  | out bytes => some (out bytes)
  | err bytes => some (err bytes)

end Effect

namespace Trace

def notes (t : List (Effect (κ ⊕ ν))) : List ν := t.filterMap Effect.note?
def unnoted (t : List (Effect (κ ⊕ ν))) : List (Effect κ) := t.filterMap Effect.unnoted?

@[simp] theorem notesAppend (a b : List (Effect (κ ⊕ ν))) :
    notes (a ++ b) = notes a ++ notes b := by
  simp [notes]

@[simp] theorem unnotedAppend (a b : List (Effect (κ ⊕ ν))) :
    unnoted (a ++ b) = unnoted a ++ unnoted b := by
  simp [unnoted]

@[simp] theorem notesLifted (t : List (Effect κ)) :
    notes (t.map (Effect.mapCall (Sum.inl : κ → κ ⊕ ν))) = [] := by
  induction t with
  | nil => rfl
  | cons e t ih => cases e <;> simpa [notes, Effect.mapCall, Effect.note?] using ih

@[simp] theorem unnotedLifted (t : List (Effect κ)) :
    unnoted (t.map (Effect.mapCall (Sum.inl : κ → κ ⊕ ν))) = t := by
  induction t with
  | nil => rfl
  | cons e t ih => cases e <;> simpa [unnoted, Effect.mapCall, Effect.unnoted?] using ih

end Trace

def Ran.unnoted (r : Ran (κ ⊕ ν) σ α) : Ran κ σ α := ⟨r.result, r.state, Trace.unnoted r.trace⟩

namespace Act

def noting (note : Except Fault α → ν) (x : Act κ σ α) : Act (κ ⊕ ν) σ α := fun s =>
  let r := x s
  ⟨r.result, r.state, r.trace.map (Effect.mapCall .inl) ++ [.call (.inr (note r.result))]⟩

theorem runNoting (note : Except Fault α → ν) (x : Act κ σ α) (s : σ) :
    (x.noting note).run s = ⟨(x.run s).result, (x.run s).state,
      (x.run s).trace.map (Effect.mapCall .inl) ++ [.call (.inr (note (x.run s).result))]⟩ := rfl

def Echoes (watched : Act (κ ⊕ ν) σ α) (x : Act κ σ α) : Prop :=
  ∀ s, (watched.run s).unnoted = x.run s

variable {x : Act κ σ α} {watched : Act (κ ⊕ ν) σ α}
variable {f : α → Act κ σ β} {watchedNext : α → Act (κ ⊕ ν) σ β}

theorem echoRun (h : Echoes watched x) (s : σ) :
    (watched.run s).result = (x.run s).result ∧ (watched.run s).state = (x.run s).state ∧
      Trace.unnoted (watched.run s).trace = (x.run s).trace := by
  rw [← h s]
  exact ⟨rfl, rfl, rfl⟩

theorem echoPure (a : α) : Echoes (pure a : Act (κ ⊕ ν) σ α) (pure a) := fun _ => rfl

theorem echoFail (e : Fault) : Echoes (fail e : Act (κ ⊕ ν) σ α) (fail e) := fun _ => rfl

theorem echoLog (level : Log.Level) (origin : Log.Origin) (message : String) :
    Echoes (log level origin message : Act (κ ⊕ ν) σ Unit) (log level origin message) :=
  fun _ => rfl

theorem echoComplain (text : String) :
    Echoes (complain text : Act (κ ⊕ ν) σ Unit) (complain text) := fun _ => rfl

theorem echoPrint (text : String) : Echoes (print text : Act (κ ⊕ ν) σ Unit) (print text) :=
  fun _ => rfl

theorem echoNoting (note : Except Fault α → ν) (x : Act κ σ α) : Echoes (x.noting note) x := by
  intro s
  have quiet : Trace.unnoted [(.call (.inr (note (x.run s).result)) : Effect (κ ⊕ ν))] = [] := rfl
  rw [runNoting, Ran.unnoted, Trace.unnotedAppend, Trace.unnotedLifted, quiet, List.append_nil]

theorem echoBind (h : Echoes watched x) (next : ∀ a, Echoes (watchedNext a) (f a)) :
    Echoes (watched >>= watchedNext) (x >>= f) := by
  intro s
  have same := (h s).symm
  rcases runCases watched s with ⟨a, s', t, run⟩ | ⟨e, s', t, run⟩
  · rw [run] at same
    rw [runOk run, runOk same, ← next a s']
    simp [Ran.unnoted]
  · rw [run] at same
    rw [runError run, runError same]
    rfl

theorem echoBindPure {γ : Type} {g : α → γ} {k : γ → Act (κ ⊕ ν) σ β} (h : Echoes watched x)
    (next : ∀ a, Echoes (k (g a)) (f a)) :
    Echoes ((watched >>= fun a => pure (g a)) >>= k) (x >>= f) := by
  rw [bindThen]
  exact echoBind h next

theorem echoAttempt (h : Echoes watched x) : Echoes watched.attempt x.attempt := by
  intro s
  obtain ⟨result, state, trace⟩ := echoRun h s
  simp [Ran.unnoted, result, state, trace]

theorem echoMapFault (g : Fault → Fault) (h : Echoes watched x) :
    Echoes (watched.mapFault g) (x.mapFault g) := by
  intro s
  obtain ⟨result, state, trace⟩ := echoRun h s
  rw [runMapFault, runMapFault, Ran.unnoted, result, state, trace]

theorem echoClosing {cleanup : Act κ σ Unit} {watchedCleanup : Act (κ ⊕ ν) σ Unit}
    (h : Echoes watched x) (c : Echoes watchedCleanup cleanup) :
    Echoes (watched.closing watchedCleanup) (x.closing cleanup) := by
  intro s
  obtain ⟨result, state, trace⟩ := echoRun h s
  obtain ⟨_, cleaned, cleaning⟩ := echoRun c (x.run s).state
  rw [runClosing, runClosing, Ran.unnoted, result, state, cleaned, Trace.unnotedAppend, trace,
    cleaning]

theorem yieldsNoting (note : Except Fault α → ν) (x : Act κ σ α) (s : σ) :
    Yields Effect.note? (x.noting note) s [note (x.run s).result] (x.run s).result
      (x.run s).state := by
  refine ⟨rfl, ?_, rfl⟩
  change Trace.notes _ = _
  rw [runNoting, Trace.notesAppend, Trace.notesLifted]
  rfl

end Act
end VmBridge
