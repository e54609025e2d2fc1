import VmBridge.Act
/-! Runs of composed acts. A sequence stops with the fault of its first part or goes on in the
state that part leaves. `Yields` tells one run as far as a view of its effects shows it; from any
state, `Shows R x` bounds every effect of `x`, `Only P x` every call that it can make, and
`Refuses Q x` every fault it can end with. -/
namespace VmBridge.Act
variable {κ σ α β : Type} {x : Act κ σ α} {f : α → Act κ σ β} {s s' : σ}

theorem runOk {a : α} {t : List (Effect κ)} (h : x.run s = ⟨.ok a, s', t⟩) :
    (x >>= f).run s =
      ⟨((f a).run s').result, ((f a).run s').state, t ++ ((f a).run s').trace⟩ := by
  rw [runBind, h]

theorem runError {e : Fault} {t : List (Effect κ)} (h : x.run s = ⟨.error e, s', t⟩) :
    (x >>= f).run s = ⟨.error e, s', t⟩ := by
  rw [runBind, h]

theorem runCases (x : Act κ σ α) (s : σ) :
    (∃ a s' t, x.run s = ⟨.ok a, s', t⟩) ∨ ∃ e s' t, x.run s = ⟨.error e, s', t⟩ := by
  rcases h : x.run s with ⟨_ | a, s', t⟩
  · exact Or.inr ⟨_, s', t, rfl⟩
  · exact Or.inl ⟨a, s', t, rfl⟩

theorem runMapFault (g : Fault → Fault) (x : Act κ σ α) (s : σ) :
    (x.mapFault g).run s = ⟨(x.run s).result.mapError g, (x.run s).state, (x.run s).trace⟩ := rfl

theorem runUndoing (x : Act κ σ α) (cleanup : Act κ σ Unit) (s : σ) :
    (x.undoing cleanup).run s =
      match x.run s with
      | ⟨.ok a, s', trace⟩ => ⟨.ok a, s', trace⟩
      | ⟨.error e, s', trace⟩ =>
        ⟨.error e, (cleanup.run s').state, trace ++ (cleanup.run s').trace⟩ := rfl

theorem bindThen {γ : Type} (x : Act κ σ α) (f : α → Act κ σ β) (g : β → Act κ σ γ) :
    (x >>= f >>= g) = x >>= fun a => f a >>= g := by
  funext s
  change Act.run _ s = Act.run _ s
  rcases runCases x s with ⟨a, s', t, run⟩ | ⟨e, s', t, run⟩
  · rw [runOk run]
    rcases runCases (f a) s' with ⟨b, s'', t', next⟩ | ⟨e, s'', t', next⟩
    · have both : (x >>= f).run s = ⟨.ok b, s'', t ++ t'⟩ := by rw [runOk run, next]
      rw [runOk both, runOk next, List.append_assoc]
    · have both : (x >>= f).run s = ⟨.error e, s'', t ++ t'⟩ := by rw [runOk run, next]
      rw [runError both, runError next]
  · rw [runError (runError run), runError run]

structure Yields {τ : Type} (view : Effect κ → Option τ) (x : Act κ σ α) (s : σ) (seen : List τ)
    (result : Except Fault α) (s' : σ) : Prop where
  result : (x.run s).result = result
  seen : (x.run s).trace.filterMap view = seen
  state : (x.run s).state = s'

section Yields
variable {τ : Type} {view : Effect κ → Option τ} {s'' : σ}
variable {seen later : List τ} {result : Except Fault α}

theorem yieldsRun (x : Act κ σ α) (s : σ) :
    Yields view x s ((x.run s).trace.filterMap view) (x.run s).result (x.run s).state :=
  ⟨rfl, rfl, rfl⟩

theorem yieldsPure (a : α) (s : σ) : Yields view (pure a : Act κ σ α) s [] (.ok a) s :=
  ⟨rfl, rfl, rfl⟩

theorem yieldsFail (e : Fault) (s : σ) : Yields view (fail e : Act κ σ α) s [] (.error e) s :=
  ⟨rfl, rfl, rfl⟩

theorem yieldsOfExcept (result : Except Fault α) (s : σ) :
    Yields view (ofExcept result : Act κ σ α) s [] result s := by
  cases result with
  | error e => exact yieldsFail e s
  | ok a => exact yieldsPure a s

theorem yieldsQuiet {e : Effect κ} (quiet : view e = none) (s : σ) :
    Yields view (emit e : Act κ σ Unit) s [] (.ok ()) s :=
  ⟨rfl, by simp [quiet], rfl⟩

theorem yieldsEmit {e : Effect κ} {shown : τ} (h : view e = some shown) (s : σ) :
    Yields view (emit e : Act κ σ Unit) s [shown] (.ok ()) s :=
  ⟨rfl, by simp [h], rfl⟩

theorem yieldsCall (c : κ) (s : σ) :
    Yields Effect.call? (call c : Act κ σ Unit) s [c] (.ok ()) s :=
  yieldsEmit (show Effect.call? (.call c) = some c from rfl) s

theorem yieldsTake (g : σ → α × σ) (s : σ) :
    Yields view (take g : Act κ σ α) s [] (.ok (g s).1) (g s).2 := ⟨rfl, rfl, rfl⟩

theorem yieldsOk {a : α} {last : Except Fault β} (h : Yields view x s seen (.ok a) s')
    (next : Yields view (f a) s' later last s'') :
    Yields view (x >>= f) s (seen ++ later) last s'' := by
  have run : x.run s = ⟨.ok a, s', (x.run s).trace⟩ := by rw [← h.result, ← h.state]
  refine ⟨?_, ?_, ?_⟩ <;> rw [runOk run]
  · exact next.result
  · rw [List.filterMap_append, h.seen, next.seen]
  · exact next.state

theorem yieldsError {e : Fault} (h : Yields view x s seen (.error e) s') :
    Yields view (x >>= f) s seen (.error e) s' := by
  have run : x.run s = ⟨.error e, s', (x.run s).trace⟩ := by rw [← h.result, ← h.state]
  refine ⟨?_, ?_, ?_⟩ <;> rw [runError run]
  exact h.seen

theorem yieldsMap (g : α → β) (h : Yields view x s seen result s') :
    Yields view (x >>= fun a => pure (g a)) s seen (result.map g) s' := by
  cases result with
  | error e => exact yieldsError h
  | ok a =>
    have both : Yields view (x >>= fun a => pure (g a)) s (seen ++ []) (.ok (g a)) s' :=
      yieldsOk h (yieldsPure (g a) s')
    rwa [List.append_nil] at both

theorem yieldsAttempt (h : Yields view x s seen result s') :
    Yields view x.attempt s seen (.ok result) s' :=
  ⟨congrArg Except.ok h.result, h.seen, h.state⟩

theorem yieldsMapFault (g : Fault → Fault) (h : Yields view x s seen result s') :
    Yields view (x.mapFault g) s seen (result.mapError g) s' :=
  ⟨congrArg (Except.mapError g) h.result, h.seen, h.state⟩

theorem yieldsClosing {cleanup : Act κ σ Unit} {cleaned : Except Fault Unit}
    (h : Yields view x s seen result s') (c : Yields view cleanup s' later cleaned s'') :
    Yields view (x.closing cleanup) s (seen ++ later) result s'' := by
  refine ⟨?_, ?_, ?_⟩ <;> rw [runClosing, h.state]
  · exact h.result
  · rw [List.filterMap_append, h.seen, c.seen]
  · exact c.state

theorem yieldsKept {cleanup : Act κ σ Unit} {a : α} (h : Yields view x s seen (.ok a) s') :
    Yields view (x.undoing cleanup) s seen (.ok a) s' := by
  have run : x.run s = ⟨.ok a, s', (x.run s).trace⟩ := by rw [← h.result, ← h.state]
  refine ⟨?_, ?_, ?_⟩ <;> rw [runUndoing, run]
  exact h.seen

theorem yieldsUndone {cleanup : Act κ σ Unit} {cleaned : Except Fault Unit} {e : Fault}
    (h : Yields view x s seen (.error e) s') (c : Yields view cleanup s' later cleaned s'') :
    Yields view (x.undoing cleanup) s (seen ++ later) (.error e) s'' := by
  have run : x.run s = ⟨.error e, s', (x.run s).trace⟩ := by rw [← h.result, ← h.state]
  refine ⟨?_, ?_, ?_⟩ <;> rw [runUndoing, run]
  · rw [List.filterMap_append, h.seen, c.seen]
  · exact c.state

end Yields

def Shows (R : Effect κ → Prop) (x : Act κ σ α) : Prop := ∀ s, ∀ e ∈ (x.run s).trace, R e

def Gives (Q : α → Prop) (x : Act κ σ α) : Prop := ∀ s a, (x.run s).result = .ok a → Q a

section Shows
variable {R : Effect κ → Prop}

theorem showsPure (a : α) : Shows R (pure a : Act κ σ α) := fun _ _ made => by cases made

theorem showsFail (e : Fault) : Shows R (fail e : Act κ σ α) := fun _ _ made => by cases made

theorem showsEmit {e : Effect κ} (h : R e) : Shows R (emit e : Act κ σ Unit) := by
  intro s e' made
  rw [runEmit, List.mem_singleton] at made
  exact made ▸ h

theorem showsTake (g : σ → α × σ) : Shows R (take g : Act κ σ α) := fun _ _ made => by cases made

theorem showsBindGives {Q : α → Prop} (h : Shows R x) (gives : Gives Q x)
    (next : ∀ a, Q a → Shows R (f a)) : Shows R (x >>= f) := by
  intro s e made
  rcases runCases x s with ⟨a, s', t, run⟩ | ⟨fault, s', t, run⟩
  · rw [runOk run] at made
    rcases List.mem_append.mp made with first | later
    · exact h s e (by rw [run]; exact first)
    · exact next a (gives s a (by rw [run])) s' e later
  · rw [runError run] at made
    exact h s e (by rw [run]; exact made)

theorem showsBind (h : Shows R x) (next : ∀ a, Shows R (f a)) : Shows R (x >>= f) :=
  showsBindGives (Q := fun _ => True) h (fun _ _ _ => trivial) fun a _ => next a

end Shows

def Within (P : κ → Prop) : Effect κ → Prop
  | .call c => P c
  | .log _ => True
  | .out _ | .err _ => False

def Only (P : κ → Prop) (x : Act κ σ α) : Prop := Shows (Within P) x

variable {P : κ → Prop}

theorem onlyCalls (h : Only P x) (s : σ) : ∀ c ∈ Trace.calls (x.run s).trace, P c := by
  intro c mem
  obtain ⟨e, made, shown⟩ := List.mem_filterMap.mp mem
  have within := h s e made
  cases e with
  | call c' => exact Option.some.inj shown ▸ within
  | log | out | err => cases shown

theorem onlyMono {R : κ → Prop} (h : Only P x) (allows : ∀ c, P c → R c) : Only R x := by
  intro s e made
  have within := h s e made
  cases e with
  | call c => exact allows c within
  | log | out | err => exact within

theorem onlyPure (a : α) : Only P (pure a : Act κ σ α) := showsPure a

theorem onlyFail (e : Fault) : Only P (fail e : Act κ σ α) := showsFail e

theorem onlyEmit {e : Effect κ} (h : Within P e) : Only P (emit e : Act κ σ Unit) := showsEmit h

theorem onlyCall {c : κ} (h : P c) : Only P (call c : Act κ σ Unit) := onlyEmit h

theorem onlyLog (level : Log.Level) (origin : Log.Origin) (message : String) :
    Only P (log level origin message : Act κ σ Unit) := onlyEmit trivial

theorem onlyTake (g : σ → α × σ) : Only P (take g : Act κ σ α) := showsTake g

theorem onlyBindGives {R : α → Prop} (h : Only P x) (gives : Gives R x)
    (next : ∀ a, R a → Only P (f a)) : Only P (x >>= f) := showsBindGives h gives next

theorem onlyBind (h : Only P x) (next : ∀ a, Only P (f a)) : Only P (x >>= f) := showsBind h next

theorem givesPure {R : α → Prop} {a : α} (h : R a) : Gives R (pure a : Act κ σ α) := by
  intro s b same
  cases same
  exact h

theorem givesBindGives {R : α → Prop} {S : β → Prop} (h : Gives R x)
    (next : ∀ a, R a → Gives S (f a)) : Gives S (x >>= f) := by
  intro s b same
  rcases runCases x s with ⟨a, s', t, run⟩ | ⟨e, s', t, run⟩
  · rw [runOk run] at same
    exact next a (h s a (by rw [run])) s' b same
  · rw [runError run] at same
    cases same

theorem givesBind {S : β → Prop} (next : ∀ a, Gives S (f a)) : Gives S (x >>= f) :=
  givesBindGives (R := fun _ => True) (fun _ _ _ => trivial) fun a _ => next a

theorem onlyAttempt (h : Only P x) : Only P x.attempt := h

theorem onlyMapFault (g : Fault → Fault) (h : Only P x) : Only P (x.mapFault g) := h

def Refuses (Q : List κ → Fault → Prop) (x : Act κ σ α) : Prop :=
  ∀ s e, (x.run s).result = .error e → Q (Trace.calls (x.run s).trace) e

variable {Q : List κ → Fault → Prop}

theorem refusesPure (a : α) : Refuses Q (pure a : Act κ σ α) := fun _ _ failed => by cases failed

theorem refusesFail {e : Fault} (h : Q [] e) : Refuses Q (fail e : Act κ σ α) := by
  intro s e' failed
  cases failed
  exact h

theorem refusesEmit (e : Effect κ) : Refuses Q (emit e : Act κ σ Unit) := fun _ _ failed => by
  cases failed

theorem refusesTake (g : σ → α × σ) : Refuses Q (take g : Act κ σ α) := fun _ _ failed => by
  cases failed

-- What is told of a fault must hold whatever was called before it.
theorem refusesBindGives {R : α → Prop} (more : ∀ before calls e, Q calls e → Q (before ++ calls) e)
    (h : Refuses Q x) (gives : Gives R x) (next : ∀ a, R a → Refuses Q (f a)) :
    Refuses Q (x >>= f) := by
  intro s e failed
  rcases runCases x s with ⟨a, s', t, run⟩ | ⟨e', s', t, run⟩
  · rw [runOk run] at failed
    rw [runOk run, Trace.callsAppend]
    exact more _ _ e (next a (gives s a (by rw [run])) s' e failed)
  · rw [runError run] at failed ⊢
    cases failed
    simpa only [run] using h s e (by rw [run])

theorem refusesBind (more : ∀ before calls e, Q calls e → Q (before ++ calls) e)
    (h : Refuses Q x) (next : ∀ a, Refuses Q (f a)) : Refuses Q (x >>= f) :=
  refusesBindGives (R := fun _ => True) more h (fun _ _ _ => trivial) fun a _ => next a

theorem refusesThen {R : Fault → Prop} (h : Refuses (fun _ => R) x)
    (next : ∀ a, Refuses (fun _ => R) (f a)) : Refuses (fun _ => R) (x >>= f) :=
  refusesBind (fun _ _ _ => id) h next

theorem refusesMono {R : List κ → Fault → Prop} (h : Refuses Q x)
    (tells : ∀ calls e, Q calls e → R calls e) : Refuses R x :=
  fun s e failed => tells _ e (h s e failed)

end VmBridge.Act
