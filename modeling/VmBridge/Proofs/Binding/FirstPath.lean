import VmBridge.Proofs.Binding.Watched
/-! Which path a search finds, by its place among all that the enumeration gives. A search takes
what stands up to the first path with the wanted token, up to the first failure if that comes
before it, and nothing after it. -/
namespace VmBridge.Binding
variable {κ σ π : Type}

inductive Given (π : Type) where
  | path (path : π) (token : Except Fault String)
  | failure (e : Fault)
  | nothing

namespace Given

def events : Given π → List (Event π)
  | path p token => [.pull (.ok (some p)), .token p token]
  | failure e => [.pull (.error e)]
  | nothing => [.pull (.ok none)]

def found? (wanted : String) : Given π → Option π
  | path p (.ok text) => if text = wanted then some p else none
  | _ => none

def stops (wanted : String) : Given π → Bool
  | path _ (.ok text) => text = wanted
  | path _ (.error _) => false
  | failure _ | nothing => true

def fails : Given π → Bool
  | failure _ => true
  | _ => false

end Given

structure Offer (κ π : Type) where
  given : Given π
  trace : List (Effect κ)

def Offer.shown {τ : Type} (view : Effect κ → Option τ) (o : Offer κ π) : List τ :=
  o.trace.filterMap view

namespace Enumeration

def offers (token : π → Act κ σ String) : σ → Enumeration κ σ π → List (Offer κ π)
  | _, [] => []
  | s, pull :: rest =>
    let pulled := pull.run s
    match pulled.result with
    | .error e => ⟨.failure e, pulled.trace⟩ :: offers token pulled.state rest
    | .ok none => [⟨.nothing, pulled.trace⟩]
    | .ok (some path) =>
      let read := (token path).run pulled.state
      ⟨.path path read.result, pulled.trace ++ read.trace⟩ :: offers token read.state rest

def given (token : π → Act κ σ String) (s : σ) (pulls : Enumeration κ σ π) : List (Given π) :=
  (offers token s pulls).map Offer.given

end Enumeration

structure Leads (wanted : String) (given : List (Given π)) (i : Nat) (p : π) : Prop where
  here : given[i]? = some (.path p (.ok wanted))
  least : ∀ j < i, ∀ q, given[j]? ≠ some (.path q (.ok wanted))
  unbroken : ∀ j < i, ∀ e, given[j]? ≠ some (.failure e)

def takes (wanted : String) (given : List (Given π)) : Nat :=
  min (given.findIdx (·.stops wanted) + 1) given.length

def finds (wanted : String) (given : List (Given π)) : Option π :=
  (given.find? (·.stops wanted)).bind (·.found? wanted)

section Takes
variable {wanted : String} {g : Given π} {rest : List (Given π)}

theorem takesStopped (stops : g.stops wanted = true) : takes wanted (g :: rest) = 1 := by
  simp [takes, List.findIdx_cons, stops]

theorem takesPassed (passed : g.stops wanted = false) :
    takes wanted (g :: rest) = takes wanted rest + 1 := by
  simp [takes, List.findIdx_cons, passed]

theorem takesFound {given : List (Given π)} {p : π} (found : finds wanted given = some p) :
    0 < takes wanted given := by
  cases given with
  | nil => cases found
  | cons g rest => simp [takes]

theorem findsStopped (stops : g.stops wanted = true) :
    finds wanted (g :: rest) = g.found? wanted := by
  simp [finds, stops]

theorem findsPassed (passed : g.stops wanted = false) :
    finds wanted (g :: rest) = finds wanted rest := by
  simp [finds, passed]

end Takes

section Offers
variable {τ : Type} {view : Effect κ → Option τ} {wanted : String}
variable {o : Offer κ π} {later : List (Offer κ π)}

def tookShown (view : Effect κ → Option τ) (wanted : String) (offers : List (Offer κ π)) : List τ :=
  (offers.take (takes wanted (offers.map Offer.given))).flatMap (·.shown view)

theorem tookStopped (stops : o.given.stops wanted = true) :
    tookShown view wanted (o :: later) = o.shown view := by
  simp [tookShown, takesStopped stops]

theorem tookPassed (passed : o.given.stops wanted = false) :
    tookShown view wanted (o :: later) = o.shown view ++ tookShown view wanted later := by
  simp [tookShown, takesPassed passed]

end Offers

section Pull
variable {token : π → Act κ σ String} {pull : Act κ σ (Option π)} {rest : Enumeration κ σ π} {s : σ}

theorem offersFailed {e : Fault} (failed : (pull.run s).result = .error e) :
    Enumeration.offers token s (pull :: rest) =
      ⟨.failure e, (pull.run s).trace⟩ :: Enumeration.offers token (pull.run s).state rest := by
  simp only [Enumeration.offers, failed]

theorem offersEnded (ended : (pull.run s).result = .ok none) :
    Enumeration.offers token s (pull :: rest) = [⟨.nothing, (pull.run s).trace⟩] := by
  simp only [Enumeration.offers, ended]

theorem offersPath {path : π} (pulled : (pull.run s).result = .ok (some path)) :
    let read := (token path).run (pull.run s).state
    Enumeration.offers token s (pull :: rest) =
      ⟨.path path read.result, (pull.run s).trace ++ read.trace⟩ ::
        Enumeration.offers token read.state rest := by
  simp only [Enumeration.offers, pulled]

end Pull

theorem findPathTakes {τ : Type} (view : Effect κ → Option τ) (quiet : ∀ r, view (.log r) = none)
    (token : π → Act κ σ String) (wanted : String) (pulls : Enumeration κ σ π) (s : σ) :
    ∃ s', Act.Yields view (findPath token wanted pulls) s
      (tookShown view wanted (pulls.offers token s))
      (.ok (finds wanted (pulls.given token s))) s' := by
  unfold Enumeration.given
  induction pulls generalizing s with
  | nil => exact ⟨s, Act.yieldsPure none s⟩
  | cons pull rest ih =>
    have pulled : Act.Yields view pull.attempt s _ _ _ := Act.yieldsAttempt (Act.yieldsRun pull s)
    match answer : (pull.run s).result with
    | .error e =>
      rw [answer] at pulled
      rw [offersFailed answer, tookStopped rfl, List.map_cons, findsStopped rfl,
        ← List.append_nil (Offer.shown _ _)]
      exact ⟨_, Act.yieldsOk pulled (Act.yieldsOk (Act.yieldsQuiet (quiet _) _)
        (Act.yieldsPure none _))⟩
    | .ok none =>
      rw [answer] at pulled
      rw [offersEnded answer, tookStopped rfl, List.map_cons, findsStopped rfl,
        ← List.append_nil (Offer.shown _ _)]
      exact ⟨_, Act.yieldsOk pulled (Act.yieldsPure none _)⟩
    | .ok (some path) =>
      rw [answer] at pulled
      have read : Act.Yields view (token path).attempt (pull.run s).state _ _ _ :=
        Act.yieldsAttempt (Act.yieldsRun (token path) (pull.run s).state)
      obtain ⟨s', later⟩ := ih ((token path).run (pull.run s).state).state
      rw [offersPath answer]
      match carried : ((token path).run (pull.run s).state).result with
      | .error e =>
        rw [carried] at read
        rw [tookPassed rfl, List.map_cons, findsPassed rfl, Offer.shown, List.filterMap_append,
          List.append_assoc]
        exact ⟨s', Act.yieldsOk pulled (Act.yieldsOk read
          (Act.yieldsOk (Act.yieldsQuiet (quiet _) _) later))⟩
      | .ok text =>
        rw [carried] at read
        by_cases same : text = wanted
        · have stops : (Given.path path (.ok text)).stops wanted = true := decide_eq_true same
          rw [tookStopped stops, List.map_cons, findsStopped stops, Offer.shown,
            List.filterMap_append,
            ← List.append_nil (List.filterMap view ((token path).run _).trace)]
          refine ⟨((token path).run (pull.run s).state).state,
            Act.yieldsOk pulled (Act.yieldsOk read ?_)⟩
          simp only [same, if_true, Given.found?]
          exact Act.yieldsPure _ _
        · have passed : (Given.path path (.ok text)).stops wanted = false := decide_eq_false same
          rw [tookPassed passed, List.map_cons, findsPassed passed, Offer.shown,
            List.filterMap_append, List.append_assoc]
          refine ⟨s', Act.yieldsOk pulled (Act.yieldsOk read ?_)⟩
          simp only [same, if_false]
          exact Act.yieldsOk (Act.yieldsQuiet (quiet _) _) later

theorem offersWatched (c : NetConfig κ σ π) (pulls : Enumeration κ σ π) (s : σ) :
    pulls.watched.given c.watched.token s = pulls.given c.token s ∧
      (pulls.watched.offers c.watched.token s).map (·.shown Effect.note?) =
        (pulls.given c.token s).map Given.events := by
  unfold Enumeration.given
  induction pulls generalizing s with
  | nil => exact ⟨rfl, rfl⟩
  | cons pull rest ih =>
    have pulled := (Act.yieldsNoting Event.pull pull s).seen
    have front : Enumeration.watched (pull :: rest) =
      pull.noting Event.pull :: Enumeration.watched rest := rfl
    rw [front]
    match answer : (pull.run s).result with
    | .error e =>
      have failed : ((pull.noting Event.pull).run s).result = .error e := answer
      obtain ⟨same, shown⟩ := ih (pull.run s).state
      rw [answer] at pulled
      rw [offersFailed answer, offersFailed failed]
      exact ⟨congrArg (_ :: ·) same, List.cons_eq_cons.mpr ⟨pulled, shown⟩⟩
    | .ok none =>
      have ended : ((pull.noting Event.pull).run s).result = .ok none := answer
      rw [answer] at pulled
      rw [offersEnded answer, offersEnded ended]
      exact ⟨rfl, congrArg ([·]) pulled⟩
    | .ok (some path) =>
      have gave : ((pull.noting Event.pull).run s).result = .ok (some path) := answer
      have read := (Act.yieldsNoting (Event.token path) (c.token path) (pull.run s).state).seen
      obtain ⟨same, shown⟩ := ih ((c.token path).run (pull.run s).state).state
      rw [answer] at pulled
      rw [offersPath answer, offersPath gave]
      refine ⟨congrArg (_ :: ·) same, List.cons_eq_cons.mpr ⟨?_, shown⟩⟩
      change List.filterMap _ (_ ++ _) = _
      rw [List.filterMap_append, pulled]
      exact congrArg (_ :: ·) read

inductive Whole : List (Given π) → Prop where
  | spent : Whole []
  | ended : Whole [.nothing]
  | path {given} (p : π) (token : Except Fault String) (rest : Whole given) :
      Whole (.path p token :: given)
  | failure {given} (e : Fault) (rest : Whole given) : Whole (.failure e :: given)

theorem givenWhole (token : π → Act κ σ String) (pulls : Enumeration κ σ π) (s : σ) :
    Whole (pulls.given token s) := by
  unfold Enumeration.given
  induction pulls generalizing s with
  | nil => exact .spent
  | cons pull rest ih =>
    match answer : (pull.run s).result with
    | .error e =>
      rw [offersFailed answer]
      exact .failure e (ih _)
    | .ok none =>
      rw [offersEnded answer]
      exact .ended
    | .ok (some path) =>
      rw [offersPath answer]
      exact .path path _ (ih _)

section Leads
variable {wanted : String} {g : Given π} {given : List (Given π)} {i : Nat} {p : π}

theorem leadsNil : ¬ Leads wanted ([] : List (Given π)) i p := fun h => by simpa using h.here

theorem leadsHere : Leads wanted (g :: given) 0 p ↔ g = .path p (.ok wanted) :=
  ⟨fun h => Option.some.inj h.here, fun same => ⟨congrArg some same, by simp, by simp⟩⟩

theorem leadsLater : Leads wanted (g :: given) (i + 1) p ↔
    (∀ q, g ≠ .path q (.ok wanted)) ∧ (∀ e, g ≠ .failure e) ∧ Leads wanted given i p := by
  constructor
  · intro h
    refine ⟨fun q same => h.least 0 (by omega) q (congrArg some same),
      fun e same => h.unbroken 0 (by omega) e (congrArg some same), h.here, fun j before => ?_,
      fun j before => ?_⟩
    · exact h.least (j + 1) (by omega)
    · exact h.unbroken (j + 1) (by omega)
  · rintro ⟨other, fine, h⟩
    refine ⟨h.here, fun j before => ?_, fun j before => ?_⟩
    · cases j with
      | zero => simpa using other
      | succ j => simpa using h.least j (by omega)
    · cases j with
      | zero => simpa using fine
      | succ j => simpa using h.unbroken j (by omega)

theorem leadsFound (whole : Whole given) :
    Leads wanted given i p ↔ finds wanted given = some p ∧ takes wanted given = i + 1 := by
  induction whole generalizing i with
  | spent => simp [leadsNil, finds]
  | ended =>
    cases i with
    | zero => simp [leadsHere, finds, Given.stops, Given.found?]
    | succ i => simp [leadsLater, leadsNil, finds, Given.stops, Given.found?]
  | @path given q token rest ih =>
    by_cases same : token = .ok wanted
    · have stops : (Given.path q token).stops wanted = true := by simp [same, Given.stops]
      rw [takesStopped stops, findsStopped stops]
      cases i with
      | zero => simp [leadsHere, same, Given.found?]
      | succ i => simp [leadsLater, same]
    · have passed : (Given.path q token).stops wanted = false := by
        cases token <;> simp_all [Given.stops]
      rw [takesPassed passed, findsPassed passed]
      cases i with
      | zero =>
        refine ⟨fun h => absurd (leadsHere.mp h) (by simp [same]), fun ⟨found, took⟩ => ?_⟩
        have some := takesFound found
        omega
      | succ i => simp [leadsLater, same, ih]
  | @failure given e rest ih =>
    have stops : (Given.failure e : Given π).stops wanted = true := rfl
    rw [takesStopped stops, findsStopped stops]
    cases i with
    | zero => simp [leadsHere, Given.found?]
    | succ i => simp [leadsLater, Given.found?]

theorem takesMissed (whole : Whole given) (missed : finds wanted given = none) :
    takes wanted given = ((given.findIdx? Given.fails).map (· + 1)).getD given.length := by
  induction whole with
  | spent => rfl
  | ended => rfl
  | @path given q token rest ih =>
    by_cases same : token = .ok wanted
    · have stops : (Given.path q token).stops wanted = true := by simp [same, Given.stops]
      rw [findsStopped stops] at missed
      simp [same, Given.found?] at missed
    · have passed : (Given.path q token).stops wanted = false := by
        cases token <;> simp_all [Given.stops]
      rw [findsPassed passed] at missed
      rw [takesPassed passed, ih missed, List.findIdx?_cons]
      cases given.findIdx? Given.fails <;> simp [Given.fails]
  | failure e rest ih =>
    rw [takesStopped rfl, List.findIdx?_cons]
    rfl

end Leads

structure FindsFirst (wanted : String) (given : List (Given π)) (taken : Nat)
    (result : Except Fault (Option π)) : Prop where
  within : taken ≤ given.length
  found : ∀ i p, Leads wanted given i p ↔ result = .ok (some p) ∧ taken = i + 1
  missed : result = .ok none ↔ ∀ i p, ¬ Leads wanted given i p
  stopped : result = .ok none →
    taken = ((given.findIdx? Given.fails).map (· + 1)).getD given.length

theorem wholeFindsFirst (wanted : String) {given : List (Given π)} (whole : Whole given) :
    FindsFirst wanted given (takes wanted given) (.ok (finds wanted given)) where
  within := Nat.min_le_right _ _
  found i p := by
    rw [leadsFound whole]
    simp
  missed := by
    refine ⟨fun none i p leads => ?_, fun leaderless => ?_⟩
    · have found := ((leadsFound whole).mp leads).1
      rw [found] at none
      cases none
    · cases found : finds wanted given with
      | none => rfl
      | some p =>
        have some := takesFound found
        exact absurd ((leadsFound whole).mpr ⟨found, by omega⟩)
          (leaderless (takes wanted given - 1) p)
  stopped none := takesMissed whole (Except.ok.inj none)

/-- However the pulls and the tokens turn out, the path that is found is the first with the wanted
token, and what was taken is asked for in order: each path is followed by its token. -/
theorem findPathFirst (c : NetConfig κ σ π) (wanted : String) (pulls : Enumeration κ σ π) (s : σ) :
    let given := pulls.given c.token s
    let watched := (findPath c.watched.token wanted pulls.watched).run s
    watched.unnoted = (findPath c.token wanted pulls).run s ∧
      ∃ taken, Trace.notes watched.trace = (given.take taken).flatMap Given.events ∧
        FindsFirst wanted given taken watched.result := by
  intro given watched
  obtain ⟨s', run⟩ := findPathTakes Effect.note? (fun _ => rfl) c.watched.token wanted
    pulls.watched s
  obtain ⟨same, shown⟩ := offersWatched c pulls s
  refine ⟨findPathEchoes c wanted pulls s, takes wanted given, ?_, ?_⟩
  · rw [Trace.notes, run.seen, tookShown, List.flatMap_def, List.map_take, shown, ← List.map_take,
      ← List.flatMap_def]
    exact congrArg (fun given => (List.take (takes wanted given) _).flatMap Given.events) same
  · rw [run.result, same]
    exact wholeFindsFirst wanted (givenWhole c.token pulls s)

end VmBridge.Binding
