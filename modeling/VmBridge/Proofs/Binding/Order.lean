import VmBridge.Proofs.Binding.Course
/-! The order in which a request asks things of a backend, and what its result tells of them.
No call follows one that failed, and a configuration that was opened is closed once, at the
end, whatever became of the request. -/
namespace VmBridge.Binding
variable {κ σ π : Type}

inductive Move (π : Type) where
  | check (deviceId : String)
  | openConfig
  | below (infId : String)
  | token (path : π)
  | setEnabled (path : π) (on : Bool)
  | apply

def Move.reads : Move π → Bool
  | token _ => true
  | _ => false

namespace Event

def move? : Event π → Option (Move π)
  | check deviceId _ => some (.check deviceId)
  | openConfig _ => some .openConfig
  | below infId _ => some (.below infId)
  | pull _ => none
  | token path _ => some (.token path)
  | setEnabled path on _ => some (.setEnabled path on)
  | apply _ => some .apply
  | close => none

def verdict? : Event π → Option Fault
  | check _ (.error e) | openConfig (.error e) | below _ (.error e) | apply (.error e) => some e
  | setEnabled _ on (.error e) => some (.toggle on e.message)
  | _ => none

def path? : Event π → Option π
  | pull (.ok path) => path
  | _ => none

def match? (wanted : String) : Event π → Option π
  | token path (.ok text) => if text = wanted then some path else none
  | _ => none

def pulls : Event π → Bool
  | pull _ => true
  | _ => false

def searches : Event π → Bool
  | pull _ | token _ _ => true
  | _ => false

def endsSearch (wanted : String) : Event π → Bool
  | pull (.ok (some _)) => false
  | pull _ => true
  | token _ (.ok text) => text = wanted
  | _ => false

def closes : Event π → Bool
  | close => true
  | _ => false

end Event

def moves (log : List (Event π)) : List (Move π) := log.filterMap Event.move?
def paths (log : List (Event π)) : List π := log.filterMap Event.path?
def chosen (wanted : String) (log : List (Event π)) : Option π :=
  log.findSome? (Event.match? wanted)

/-- All that a request asks for if nothing fails, for the paths it is shown and the one of
them it chooses. -/
def Request.plan (policy : Sharing.Policy) (r : Request) (log : List (Event π)) :
    List (Move π) :=
  (if policy = .always ∨ policy = .bind ∧ r.action = .bind then [.check r.deviceId] else []) ++
    [.openConfig, .below r.infId] ++ (paths log).map .token ++
    (chosen (r.infId ++ "->" ++ r.deviceId) log).toList.flatMap fun path =>
      [.setEnabled path (decide (r.action = .bind)), .apply]

structure Orderly (policy : Sharing.Policy) (r : Request) (log : List (Event π))
    (result : Except Fault Unit) : Prop where
  order : moves log <+: r.plan policy log
  once : ((moves log).filter fun m => !m.reads).Nodup
  complete : (∀ e ∈ log, e.verdict? = none) → moves log = r.plan policy log
  afterSuccess : log.Pairwise fun earlier later => later.closes = true ∨ earlier.verdict? = none
  searchEnds : log.Pairwise fun earlier later =>
    earlier.endsSearch (r.infId ++ "->" ++ r.deviceId) = true → later.searches = false
  searchedAll : ∀ n, .below r.infId (.ok n) ∈ log →
    (∀ e ∈ log, e.endsSearch (r.infId ++ "->" ++ r.deviceId) = false) →
    log.countP Event.pulls = n
  checked : (∃ answer, .check r.deviceId answer ∈ log) ↔
    policy = .always ∨ policy = .bind ∧ r.action = .bind
  applied : (∃ answer, .apply answer ∈ log) ↔ ∃ path on, .setEnabled path on (.ok ()) ∈ log
  closeLast : log.Pairwise fun earlier _ => earlier.closes = false
  closedOnce : .openConfig (.ok ()) ∈ log → log.countP Event.closes = 1
  neverClosed : .openConfig (.ok ()) ∉ log → log.countP Event.closes = 0
  succeeds : result = .ok () ↔ .apply (.ok ()) ∈ log
  missing : (∃ n, .below r.infId (.ok n) ∈ log) →
    chosen (r.infId ++ "->" ++ r.deviceId) log = none →
    result = .error (.toggle (decide (r.action = .bind))
      ("no binding path matches " ++ (r.infId ++ "->" ++ r.deviceId)))
  failed : ∀ event ∈ log, ∀ e, event.verdict? = some e → result = .error e

@[simp] theorem movesNil : moves ([] : List (Event π)) = [] := rfl

@[simp] theorem pathsNil : paths ([] : List (Event π)) = [] := rfl

@[simp] theorem chosenNil (wanted : String) : chosen wanted ([] : List (Event π)) = none := rfl

@[simp] theorem movesCons (e : Event π) (log : List (Event π)) :
    moves (e :: log) = e.move?.toList ++ moves log := by
  cases h : e.move? <;> simp [moves, h]

@[simp] theorem pathsCons (e : Event π) (log : List (Event π)) :
    paths (e :: log) = e.path?.toList ++ paths log := by
  cases h : e.path? <;> simp [paths, h]

@[simp] theorem chosenCons (wanted : String) (e : Event π) (log : List (Event π)) :
    chosen wanted (e :: log) = (e.match? wanted).or (chosen wanted log) := by
  cases h : e.match? wanted <;> simp [chosen, h]

@[simp] theorem movesAppend (a b : List (Event π)) : moves (a ++ b) = moves a ++ moves b := by
  simp [moves]

@[simp] theorem pathsAppend (a b : List (Event π)) : paths (a ++ b) = paths a ++ paths b := by
  simp [paths]

@[simp] theorem chosenAppend (wanted : String) (a b : List (Event π)) :
    chosen wanted (a ++ b) = (chosen wanted a).or (chosen wanted b) := by
  simp [chosen, List.findSome?_append]

section Searched
variable {wanted : String} {n : Nat} {log : List (Event π)} {found : Option π}

theorem searchedOnly (h : Searched wanted n log found) : ∀ e ∈ log, e.searches = true := by
  induction h with
  | spent | ended | broken | found => simp [Event.searches]
  | other _ _ _ _ ih | unreadable _ _ _ ih => simpa [Event.searches] using ih

theorem searchedMoves (h : Searched wanted n log found) : moves log = (paths log).map .token := by
  induction h with
  | spent | ended | broken | found => rfl
  | other path _ _ _ ih | unreadable path _ _ ih => exact congrArg (Move.token path :: ·) ih

theorem searchedChosen (h : Searched wanted n log found) : chosen wanted log = found := by
  induction h with
  | spent | ended | broken => rfl
  | found => simp [Event.match?]
  | other _ _ different _ ih => simpa [Event.match?, different] using ih
  | unreadable _ _ _ ih => simpa [Event.match?] using ih

theorem searchedEnds (h : Searched wanted n log found) :
    log.Pairwise fun earlier later =>
      earlier.endsSearch wanted = true → later.searches = false := by
  induction h with
  | spent | ended | broken | found => simp [Event.endsSearch]
  | other _ _ different _ ih => simpa [Event.endsSearch, different] using ih
  | unreadable _ _ _ ih => simpa [Event.endsSearch] using ih

theorem searchedPulls (h : Searched wanted n log found)
    (unended : ∀ e ∈ log, e.endsSearch wanted = false) : log.countP Event.pulls = n := by
  induction h with
  | spent => rfl
  | ended | broken | found => simp [Event.endsSearch] at unended
  | other _ _ _ _ ih | unreadable _ _ _ ih =>
    have rest := ih fun e mem => unended e (by simp [mem])
    simpa [List.countP_cons, Event.pulls] using rest

theorem searchedFine (h : Searched wanted n log found) :
    ∀ e ∈ log, e.verdict? = none ∧ e.closes = false := by
  intro e mem
  have only := searchedOnly h e mem
  cases e <;> first | exact ⟨rfl, rfl⟩ | cases only

theorem searchedLacks (h : Searched wanted n log found) (e : Event π) (call : e.searches = false) :
    e ∉ log := by
  intro mem
  rw [searchedOnly h e mem] at call
  cases call

end Searched

section Course
variable {policy : Sharing.Policy} {r : Request} {log : List (Event π)}
variable {result : Except Fault Unit}

theorem planProgrammed (policy : Sharing.Policy) (r : Request) (log : List (Event π)) :
    r.plan policy log =
      (if policy.applies r.action then [.check r.deviceId] else []) ++
        [.openConfig, .below r.infId] ++ (paths log).map .token ++
        (chosen r.token log).toList.flatMap fun path =>
          [.setEnabled path r.action.enables, .apply] := by
  simp only [Request.plan, Sharing.Policy.appliesGuard, Action.enablesBind, Request.token,
    pathToken]

theorem courseOrder (h : Course policy r log result) : moves log <+: r.plan policy log := by
  rw [planProgrammed]
  cases h with
  | shared applies e => simp [applies, Event.move?, Event.path?, Event.match?]
  | unopened e =>
    unfold passedCheck
    split <;> simp [Event.move?, Event.path?, Event.match?]
  | opened toggled =>
    unfold passedCheck
    cases toggled with
    | absent e => split <;> simp [Event.move?, Event.path?, Event.match?]
    | missing searched | refused searched e | applied searched answer =>
      split <;> simp [Event.move?, Event.path?, Event.match?, searchedMoves searched,
        searchedChosen searched]

theorem courseComplete (h : Course policy r log result) (fine : ∀ e ∈ log, e.verdict? = none) :
    moves log = r.plan policy log := by
  rw [planProgrammed]
  cases h with
  | shared applies e => cases fine _ List.mem_cons_self
  | unopened e => cases fine (.openConfig (.error e)) (by simp)
  | opened toggled =>
    unfold passedCheck
    cases toggled with
    | absent e => cases fine (.below r.infId (.error e)) (by simp)
    | @refused _ _ path searched e =>
      cases fine (.setEnabled path r.action.enables (.error e)) (by simp)
    | missing searched | applied searched answer =>
      split <;> simp [Event.move?, Event.path?, Event.match?, searchedMoves searched,
        searchedChosen searched]

theorem courseOnce (h : Course policy r log result) :
    ((moves log).filter fun m => !m.reads).Nodup := by
  -- The plan repeats nothing but reads of tokens, and the moves are its front.
  refine ((courseOrder h).filter _).sublist.nodup ?_
  have reading : ((paths log).map Move.token).filter (fun m => !m.reads) = [] := by
    simp [Move.reads]
  rw [planProgrammed]
  simp only [List.filter_append, reading]
  cases chosen r.token log <;> split <;> simp [Move.reads]

theorem passedFine (policy : Sharing.Policy) (r : Request) :
    ∀ e ∈ (passedCheck policy r : List (Event π)), e.verdict? = none ∧ e.closes = false := by
  unfold passedCheck
  split <;> simp [Event.verdict?, Event.closes]

theorem passedCalls (policy : Sharing.Policy) (r : Request) :
    ∀ e ∈ (passedCheck policy r : List (Event π)), e.searches = false := by
  unfold passedCheck
  split <;> simp [Event.searches]

theorem courseEnd (h : Course policy r log result) :
    ∃ (before : List (Event π)) (last : Option (Event π)) (after : List (Event π)),
      log = before ++ (last.toList ++ after) ∧ (after = [] ∨ after = [.close]) ∧
      (∀ e ∈ last, e.closes = false) ∧ ∀ e ∈ before, e.verdict? = none ∧ e.closes = false := by
  have passed := passedFine (π := π) policy r
  cases h with
  | shared applies e => exact ⟨[], some _, [], rfl, Or.inl rfl, by simp [Event.closes], by simp⟩
  | unopened e =>
    exact ⟨passedCheck policy r, some _, [], rfl, Or.inl rfl, by simp [Event.closes], passed⟩
  | opened toggled =>
    cases toggled with
    | absent e =>
      refine ⟨passedCheck policy r ++ [.openConfig (.ok ())], some (.below r.infId (.error e)),
        [.close], by simp, Or.inr rfl, by simp [Event.closes], ?_⟩
      simp only [List.forall_mem_append, List.forall_mem_cons]
      exact ⟨passed, ⟨rfl, rfl⟩, by simp⟩
    | @missing pulls search searched =>
      refine ⟨passedCheck policy r ++ .openConfig (.ok ()) :: .below r.infId (.ok pulls) :: search,
        none, [.close], by simp, Or.inr rfl, by simp, ?_⟩
      simp only [List.forall_mem_append, List.forall_mem_cons]
      exact ⟨passed, ⟨rfl, rfl⟩, ⟨rfl, rfl⟩, searchedFine searched⟩
    | @refused pulls search path searched e =>
      refine ⟨passedCheck policy r ++ .openConfig (.ok ()) :: .below r.infId (.ok pulls) :: search,
        some (.setEnabled path r.action.enables (.error e)), [.close], by simp, Or.inr rfl,
        by simp [Event.closes], ?_⟩
      simp only [List.forall_mem_append, List.forall_mem_cons]
      exact ⟨passed, ⟨rfl, rfl⟩, ⟨rfl, rfl⟩, searchedFine searched⟩
    | @applied pulls search path searched answer =>
      refine ⟨passedCheck policy r ++ .openConfig (.ok ()) :: .below r.infId (.ok pulls) ::
        (search ++ [.setEnabled path r.action.enables (.ok ())]), some (.apply result), [.close],
        by simp, Or.inr rfl, by simp [Event.closes], ?_⟩
      simp only [List.forall_mem_append, List.forall_mem_cons]
      exact ⟨passed, ⟨rfl, rfl⟩, ⟨rfl, rfl⟩, searchedFine searched, ⟨rfl, rfl⟩, by simp⟩

theorem courseAfterSuccess (h : Course policy r log result) :
    log.Pairwise fun earlier later => later.closes = true ∨ earlier.verdict? = none := by
  obtain ⟨before, last, after, rfl, ending, _, fine⟩ := courseEnd h
  rw [List.pairwise_append]
  refine ⟨?_, ?_, fun e mem _ _ => Or.inr (fine e mem).1⟩
  · exact List.pairwise_of_forall_mem_list fun e mem _ _ => Or.inr (fine e mem).1
  · cases last <;> rcases ending with rfl | rfl <;> simp [Event.closes]

theorem courseCloseLast (h : Course policy r log result) :
    log.Pairwise fun earlier _ => earlier.closes = false := by
  obtain ⟨before, last, after, rfl, ending, calls, fine⟩ := courseEnd h
  rw [List.pairwise_append]
  refine ⟨?_, ?_, fun e mem _ _ => (fine e mem).2⟩
  · exact List.pairwise_of_forall_mem_list fun e mem _ _ => (fine e mem).2
  · cases last <;> rcases ending with rfl | rfl <;> simp_all

theorem courseSearch (h : Course policy r log result) :
    ∃ (n : Nat) (found : Option π) (before search after : List (Event π)),
      log = before ++ (search ++ after) ∧ Searched r.token n search found ∧
      (∀ e ∈ before, e.searches = false) ∧ (∀ e ∈ after, e.searches = false) ∧
      ∀ m, .below r.infId (.ok m) ∈ log → m = n := by
  have passed := passedCalls (π := π) policy r
  cases h with
  | shared applies e =>
    exact ⟨0, none, [_], [], [], rfl, .spent, by simp [Event.searches], by simp, by simp⟩
  | unopened e =>
    refine ⟨0, none, _, [], [], (List.append_nil _).symm, .spent, ?_, by simp,
      by simp [passedCheck]⟩
    simp only [List.forall_mem_append, List.forall_mem_cons]
    exact ⟨passed, rfl, by simp⟩
  | opened toggled =>
    cases toggled with
    | absent e =>
      refine ⟨0, none, _, [], [], (List.append_nil _).symm, .spent, ?_, by simp,
        by simp [passedCheck]⟩
      simp only [List.forall_mem_append, List.forall_mem_cons]
      exact ⟨passed, rfl, ⟨rfl, by simp⟩, rfl, by simp⟩
    | @missing pulls search searched =>
      have lacks := fun m => searchedLacks searched (.below r.infId (.ok m)) rfl
      refine ⟨pulls, _, passedCheck policy r ++ [.openConfig (.ok ()), .below r.infId (.ok pulls)],
        search, [.close], by simp, searched, ?_, by simp [Event.searches],
        by simp [passedCheck, lacks]⟩
      simp only [List.forall_mem_append, List.forall_mem_cons]
      exact ⟨passed, rfl, rfl, by simp⟩
    | @refused pulls search path searched e =>
      have lacks := fun m => searchedLacks searched (.below r.infId (.ok m)) rfl
      refine ⟨pulls, _, passedCheck policy r ++ [.openConfig (.ok ()), .below r.infId (.ok pulls)],
        search, [.setEnabled path r.action.enables (.error e), .close], by simp, searched, ?_,
        by simp [Event.searches], by simp [passedCheck, lacks]⟩
      simp only [List.forall_mem_append, List.forall_mem_cons]
      exact ⟨passed, rfl, rfl, by simp⟩
    | @applied pulls search path searched answer =>
      have lacks := fun m => searchedLacks searched (.below r.infId (.ok m)) rfl
      refine ⟨pulls, _, passedCheck policy r ++ [.openConfig (.ok ()), .below r.infId (.ok pulls)],
        search, [.setEnabled path r.action.enables (.ok ()), .apply result, .close], by simp,
        searched, ?_, by simp [Event.searches], by simp [passedCheck, lacks]⟩
      simp only [List.forall_mem_append, List.forall_mem_cons]
      exact ⟨passed, rfl, rfl, by simp⟩

theorem endsInSearch {wanted : String} {e : Event π} (call : e.searches = false) :
    e.endsSearch wanted = false := by
  cases e <;> first | rfl | cases call

theorem pullsSearch {e : Event π} (call : e.searches = false) : e.pulls = false := by
  cases e <;> first | rfl | cases call

theorem courseSearchEnds (h : Course policy r log result) :
    log.Pairwise fun earlier later =>
      earlier.endsSearch r.token = true → later.searches = false := by
  obtain ⟨n, found, before, search, after, rfl, searched, calls, later, _⟩ := courseSearch h
  have first : ∀ e ∈ before, ¬ e.endsSearch r.token = true := fun e mem ended => by
    rw [endsInSearch (calls e mem)] at ended
    cases ended
  rw [List.pairwise_append, List.pairwise_append]
  refine ⟨?_, ⟨searchedEnds searched, ?_, fun _ _ e mem _ => later e mem⟩,
    fun e mem _ _ ended => absurd ended (first e mem)⟩
  · exact List.pairwise_of_forall_mem_list fun e mem _ _ ended => absurd ended (first e mem)
  · exact List.pairwise_of_forall_mem_list fun _ _ e mem _ => later e mem

theorem courseSearchedAll (h : Course policy r log result) (n : Nat)
    (listed : .below r.infId (.ok n) ∈ log)
    (unended : ∀ e ∈ log, e.endsSearch r.token = false) : log.countP Event.pulls = n := by
  obtain ⟨m, found, before, search, after, same, searched, calls, later, count⟩ := courseSearch h
  have quiet : ∀ l : List (Event π), (∀ e ∈ l, e.searches = false) → l.countP Event.pulls = 0 :=
    fun l none => List.countP_eq_zero.mpr fun e mem => by simp [pullsSearch (none e mem)]
  rw [count n listed, same, List.countP_append, List.countP_append, quiet before calls,
    quiet after later, searchedPulls searched fun e mem => unended e (by simp [same, mem])]
  simp

theorem courseClosed (h : Course policy r log result) :
    (.openConfig (.ok ()) ∈ log → log.countP Event.closes = 1) ∧
      (.openConfig (.ok ()) ∉ log → log.countP Event.closes = 0) := by
  have passed : (passedCheck (π := π) policy r).countP Event.closes = 0 :=
    List.countP_eq_zero.mpr fun e mem => by simp [(passedFine policy r e mem).2]
  cases h with
  | shared applies e => simp [Event.closes]
  | unopened e => simp [passedCheck, Event.closes]
  | opened toggled =>
    refine ⟨fun _ => ?_, fun absent => absurd (by simp) absent⟩
    cases toggled with
    | absent e => simp [passed, List.countP_cons, Event.closes]
    | missing searched | refused searched | applied searched =>
      have quiet := List.countP_eq_zero.mpr fun e mem =>
        Bool.eq_false_iff.mp (searchedFine searched e mem).2
      simp [passed, List.countP_cons, Event.closes, quiet]

theorem courseChecked (h : Course policy r log result) :
    (∃ answer, .check r.deviceId answer ∈ log) ↔ policy.applies r.action = true := by
  cases h with
  | shared applies e => simp [applies]
  | unopened e => simp [passedCheck]
  | opened toggled =>
    cases toggled with
    | absent e => simp [passedCheck]
    | missing searched | refused searched | applied searched =>
      have lacks := fun answer => searchedLacks searched (.check r.deviceId answer) rfl
      simp [passedCheck, lacks]

theorem courseApplied (h : Course policy r log result) :
    (∃ answer, .apply answer ∈ log) ↔ ∃ path on, .setEnabled path on (.ok ()) ∈ log := by
  cases h with
  | shared applies e => simp
  | unopened e => simp [passedCheck]
  | opened toggled =>
    cases toggled with
    | absent e => simp [passedCheck]
    | missing searched | refused searched | applied searched =>
      have lacks := fun answer => searchedLacks searched (.apply answer) rfl
      have lacks' := fun path on => searchedLacks searched (.setEnabled path on (.ok ())) rfl
      simp [passedCheck, lacks, lacks']

theorem courseSucceeds (h : Course policy r log result) :
    result = .ok () ↔ .apply (.ok ()) ∈ log := by
  cases h with
  | shared applies e => simp
  | unopened e => simp [passedCheck]
  | opened toggled =>
    cases toggled with
    | absent e => simp [passedCheck]
    | missing searched | refused searched =>
      simp [passedCheck, searchedLacks searched (.apply (.ok ())) rfl]
    | applied searched answer =>
      simp only [passedCheck, List.mem_append, List.mem_cons,
        searchedLacks searched (.apply (.ok ())) rfl]
      split <;> simp [eq_comm]

theorem courseMissing (h : Course policy r log result)
    (listed : ∃ n, .below r.infId (.ok n) ∈ log) (none : chosen r.token log = none) :
    result = .error (.toggle r.action.enables s!"no binding path matches {r.token}") := by
  cases h with
  | shared applies e => simp at listed
  | unopened e => simp [passedCheck] at listed
  | opened toggled =>
    cases toggled with
    | absent e => simp [passedCheck] at listed
    | missing searched => rfl
    | refused searched | applied searched =>
      simp [searchedChosen searched, Event.match?] at none

theorem courseFailed (h : Course policy r log result) :
    ∀ event ∈ log, ∀ e, event.verdict? = some e → result = .error e := by
  have fine : ∀ l : List (Event π), (∀ e ∈ l, e.verdict? = none ∧ e.closes = false) →
      ∀ event ∈ l, ∀ e, event.verdict? = some e → result = .error e :=
    fun l none event mem e verdict => by simp [(none event mem).1] at verdict
  have passed := fine _ (passedFine policy r)
  cases h with
  | shared applies e => simp [Event.verdict?]
  | unopened e =>
    simp only [List.forall_mem_append, List.forall_mem_cons]
    exact ⟨passed, by simp [Event.verdict?], by simp⟩
  | opened toggled =>
    simp only [List.forall_mem_append, List.forall_mem_cons]
    refine ⟨passed, by simp [Event.verdict?], ?_, by simp [Event.verdict?], by simp⟩
    cases toggled with
    | absent e => simp [Event.verdict?]
    | missing searched =>
      simp only [List.forall_mem_cons]
      exact ⟨by simp [Event.verdict?], fine _ (searchedFine searched)⟩
    | refused searched e =>
      simp only [List.forall_mem_append, List.forall_mem_cons]
      exact ⟨by simp [Event.verdict?], fine _ (searchedFine searched), by simp [Event.verdict?],
        by simp⟩
    | applied searched answer =>
      simp only [List.forall_mem_append, List.forall_mem_cons]
      refine ⟨by simp [Event.verdict?], fine _ (searchedFine searched), by simp [Event.verdict?],
        ?_, by simp⟩
      cases result <;> simp [Event.verdict?]

theorem courseOrderly (h : Course policy r log result) : Orderly policy r log result where
  order := courseOrder h
  once := courseOnce h
  complete := courseComplete h
  afterSuccess := courseAfterSuccess h
  searchEnds := courseSearchEnds h
  searchedAll := courseSearchedAll h
  checked := (courseChecked h).trans Sharing.Policy.appliesGuard
  applied := courseApplied h
  closeLast := courseCloseLast h
  closedOnce := (courseClosed h).1
  neverClosed := (courseClosed h).2
  succeeds := courseSucceeds h
  missing := by
    rw [← Action.enablesBind]
    exact courseMissing h
  failed := courseFailed h

end Course

/-- A request goes its course on every backend, watched or not. -/
theorem executeOrderly (b : Backend κ σ π) (policy : Sharing.Policy) (r : Request) (s : σ) :
    let watched := (b.watched.execute policy r).run s
    watched.unnoted = (b.execute policy r).run s ∧
      Orderly policy r (Trace.notes watched.trace) watched.result := by
  obtain ⟨log, result, s', run, course⟩ := executeCourse b policy r s
  refine ⟨executeEchoes b policy r s, ?_⟩
  rw [Trace.notes, run.seen, run.result]
  exact courseOrderly course

end VmBridge.Binding
