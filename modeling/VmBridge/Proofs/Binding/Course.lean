import VmBridge.Proofs.Binding.Watched
/-! The courses that a request can take, as lists of events with the result they end in. Every
run on a watched backend is one of them. -/
namespace VmBridge.Binding
variable {κ σ π : Type}

inductive Searched (wanted : String) : Nat → List (Event π) → Option π → Prop where
  | spent : Searched wanted 0 [] none
  | ended (left : Nat) : Searched wanted (left + 1) [.pull (.ok none)] none
  | broken (left : Nat) (e : Fault) : Searched wanted (left + 1) [.pull (.error e)] none
  | found (left : Nat) (path : π) :
      Searched wanted (left + 1) [.pull (.ok (some path)), .token path (.ok wanted)] (some path)
  | other {left log out} (path : π) (token : String) (different : token ≠ wanted)
      (rest : Searched wanted left log out) :
      Searched wanted (left + 1)
        (.pull (.ok (some path)) :: .token path (.ok token) :: log) out
  | unreadable {left log out} (path : π) (e : Fault) (rest : Searched wanted left log out) :
      Searched wanted (left + 1)
        (.pull (.ok (some path)) :: .token path (.error e) :: log) out

inductive Toggled (infId wanted : String) (on : Bool) :
    List (Event π) → Except Fault Unit → Prop where
  | absent (e : Fault) : Toggled infId wanted on [.below infId (.error e)] (.error e)
  | missing {pulls search} (searched : Searched wanted pulls search none) :
      Toggled infId wanted on (.below infId (.ok pulls) :: search)
        (.error (.toggle on s!"no binding path matches {wanted}"))
  | refused {pulls search path} (searched : Searched wanted pulls search (some path))
      (e : Fault) :
      Toggled infId wanted on
        (.below infId (.ok pulls) :: (search ++ [.setEnabled path on (.error e)]))
        (.error (.toggle on e.message))
  | applied {pulls search path} (searched : Searched wanted pulls search (some path))
      (answer : Except Fault Unit) :
      Toggled infId wanted on
        (.below infId (.ok pulls) :: (search ++ [.setEnabled path on (.ok ()), .apply answer]))
        answer

def passedCheck (policy : Sharing.Policy) (r : Request) : List (Event π) :=
  if policy.applies r.action then [.check r.deviceId (.ok ())] else []

inductive Course (policy : Sharing.Policy) (r : Request) :
    List (Event π) → Except Fault Unit → Prop where
  | shared (applies : policy.applies r.action = true) (e : Fault) :
      Course policy r [.check r.deviceId (.error e)] (.error e)
  | unopened (e : Fault) :
      Course policy r (passedCheck policy r ++ [.openConfig (.error e)]) (.error e)
  | opened {log result} (toggled : Toggled r.infId r.token r.action.enables log result) :
      Course policy r (passedCheck policy r ++ (.openConfig (.ok ()) :: (log ++ [.close]))) result

theorem findPathSearched (c : NetConfig κ σ π) (wanted : String) (pulls : Enumeration κ σ π)
    (s : σ) : ∃ log found s',
      Act.Yields Effect.note? (findPath c.watched.token wanted pulls.watched) s log (.ok found) s' ∧
        Searched wanted pulls.length log found := by
  -- Each pull and each token leaves a state of its own for the pulls after it.
  induction pulls generalizing s with
  | nil => exact ⟨[], none, s, Act.yieldsPure none s, .spent⟩
  | cons pull rest ih =>
    have pulled := Act.yieldsAttempt (Act.yieldsNoting Event.pull pull s)
    match answer : (pull.run s).result with
    | .error e =>
      rw [answer] at pulled
      exact ⟨_, none, _, Act.yieldsOk pulled (Act.yieldsOk (Act.yieldsQuiet rfl _)
        (Act.yieldsPure none _)), .broken _ e⟩
    | .ok none =>
      rw [answer] at pulled
      exact ⟨_, none, _, Act.yieldsOk pulled (Act.yieldsPure none _), .ended _⟩
    | .ok (some path) =>
      rw [answer] at pulled
      have read := Act.yieldsAttempt
        (Act.yieldsNoting (Event.token path) (c.token path) (pull.run s).state)
      obtain ⟨log, found, s', tail, searched⟩ := ih ((c.token path).run (pull.run s).state).state
      match token : ((c.token path).run (pull.run s).state).result with
      | .error e =>
        rw [token] at read
        exact ⟨_, found, s', Act.yieldsOk pulled (Act.yieldsOk read
          (Act.yieldsOk (Act.yieldsQuiet rfl _) tail)), .unreadable path e searched⟩
      | .ok text =>
        rw [token] at read
        by_cases same : text = wanted
        · subst same
          refine ⟨_, some path, ((c.token path).run (pull.run s).state).state,
            Act.yieldsOk pulled (Act.yieldsOk read ?_), .found _ path⟩
          simp only [if_true]
          exact Act.yieldsPure _ _
        · refine ⟨_, found, s', Act.yieldsOk pulled (Act.yieldsOk read ?_),
            .other path text same searched⟩
          simp only [same, if_false]
          exact Act.yieldsOk (Act.yieldsQuiet rfl _) tail

theorem belowYields (c : NetConfig κ σ π) (infId : String) (s : σ) :
    Act.Yields Effect.note? (c.watched.below infId) s
      [.below infId (((c.below infId).run s).result.map List.length)]
      (((c.below infId).run s).result.map Enumeration.watched) ((c.below infId).run s).state := by
  have listed := Act.yieldsNoting
    (fun answer => (.below infId (answer.map List.length) : Event π)) (c.below infId) s
  match answer : ((c.below infId).run s).result with
  | .error e =>
    rw [answer] at listed
    exact Act.yieldsError listed
  | .ok pulls =>
    rw [answer] at listed
    exact Act.yieldsOk listed (Act.yieldsPure pulls.watched _)

theorem openConfigYields (b : Backend κ σ π) (s : σ) :
    Act.Yields Effect.note? b.watched.openConfig s
      [.openConfig ((b.openConfig.run s).result.map fun _ => ())]
      ((b.openConfig.run s).result.map NetConfig.watched) (b.openConfig.run s).state := by
  have opened := Act.yieldsNoting
    (fun answer => (.openConfig (answer.map fun _ => ()) : Event π)) b.openConfig s
  match answer : (b.openConfig.run s).result with
  | .error e =>
    rw [answer] at opened
    exact Act.yieldsError opened
  | .ok c =>
    rw [answer] at opened
    exact Act.yieldsOk opened (Act.yieldsPure c.watched _)

theorem toggleToggled (c : NetConfig κ σ π) (infId wanted : String) (on : Bool) (s : σ) :
    ∃ log result s', Act.Yields Effect.note? (c.watched.toggle infId wanted on) s log result s' ∧
      Toggled infId wanted on log result := by
  have listed := belowYields c infId s
  match answer : ((c.below infId).run s).result with
  | .error e =>
    rw [answer] at listed
    exact ⟨_, _, _, Act.yieldsError listed, .absent e⟩
  | .ok pulls =>
    rw [answer] at listed
    obtain ⟨search, found, s', walk, searched⟩ :=
      findPathSearched c wanted pulls ((c.below infId).run s).state
    match found with
    | none =>
      refine ⟨_, _, _, Act.yieldsOk listed (Act.yieldsOk walk (Act.yieldsFail _ _)), ?_⟩
      rw [List.append_nil]
      exact .missing searched
    | some path =>
      have set := Act.yieldsMapFault (fun e => .toggle on e.message)
        (Act.yieldsNoting (Event.setEnabled path on) (c.setEnabled path on) s')
      match enabled : ((c.setEnabled path on).run s').result with
      | .error e =>
        rw [enabled] at set
        exact ⟨_, _, _, Act.yieldsOk listed (Act.yieldsOk walk (Act.yieldsError set)),
          .refused searched e⟩
      | .ok () =>
        rw [enabled] at set
        exact ⟨_, _, _, Act.yieldsOk listed (Act.yieldsOk walk (Act.yieldsOk set
          (Act.yieldsNoting Event.apply c.apply _))), .applied searched _⟩

theorem backendToggleYields (b : Backend κ σ π) (infId wanted : String) (on : Bool) (s : σ) :
    (∃ e s', Act.Yields Effect.note? (b.watched.toggle infId wanted on) s [.openConfig (.error e)]
        (.error e) s') ∨
      ∃ log result s', Act.Yields Effect.note? (b.watched.toggle infId wanted on) s
          (.openConfig (.ok ()) :: (log ++ [.close])) result s' ∧
        Toggled infId wanted on log result := by
  have opened := openConfigYields b s
  match answer : (b.openConfig.run s).result with
  | .error e =>
    rw [answer] at opened
    exact Or.inl ⟨e, _, Act.yieldsError opened⟩
  | .ok c =>
    rw [answer] at opened
    obtain ⟨log, result, s', run, toggled⟩ :=
      toggleToggled c infId wanted on (b.openConfig.run s).state
    exact Or.inr ⟨log, result, _, Act.yieldsOk opened (Act.yieldsClosing run
      (Act.yieldsNoting (fun _ => Event.close) c.close s')), toggled⟩

theorem checkYields (b : Backend κ σ π) (policy : Sharing.Policy) (r : Request) (s : σ) :
    (∃ s', Act.Yields Effect.note? (b.watched.check policy r) s (passedCheck policy r)
        (.ok ()) s') ∨
      policy.applies r.action = true ∧ ∃ e s', Act.Yields Effect.note?
        (b.watched.check policy r) s [.check r.deviceId (.error e)] (.error e) s' := by
  unfold Backend.check passedCheck
  split
  · rename_i applies
    have checked := Act.yieldsNoting (Event.check (π := π) r.deviceId)
      (b.ensureNotShared r.deviceId) s
    match answer : ((b.ensureNotShared r.deviceId).run s).result with
    | .ok () =>
      rw [answer] at checked
      exact Or.inl ⟨_, checked⟩
    | .error e =>
      rw [answer] at checked
      exact Or.inr ⟨applies, e, _, checked⟩
  · exact Or.inl ⟨s, Act.yieldsPure () s⟩

theorem executeCourse (b : Backend κ σ π) (policy : Sharing.Policy) (r : Request) (s : σ) :
    ∃ log result s', Act.Yields Effect.note? (b.watched.execute policy r) s log result s' ∧
      Course policy r log result := by
  rcases checkYields b policy r s with ⟨s', passed⟩ | ⟨applies, e, s', refused⟩
  · rcases backendToggleYields b r.infId r.token r.action.enables s' with
      ⟨e, s'', unopened⟩ | ⟨log, result, s'', run, toggled⟩
    · exact ⟨_, _, s'', Act.yieldsOk passed unopened, .unopened e⟩
    · exact ⟨_, _, s'', Act.yieldsOk passed run, .opened toggled⟩
  · exact ⟨_, _, s', Act.yieldsError refused, .shared applies e⟩

end VmBridge.Binding
