import VmBridge.Proofs.Windows.Toggling
/-! The binding paths that a listing gives. They are those of the answers up to the first that is
not plain success with a path, and a failure follows them if that answer is one; after it nothing
is asked any more. -/
namespace VmBridge

namespace Binding
variable {κ σ π : Type}

namespace Enumeration

def afterPull (rest : Enumeration κ σ π) :
    Except Fault (Option π) → Option (Except Fault π) × Enumeration κ σ π
  | .ok (some path) => (some (.ok path), rest)
  | .ok none => (none, [])
  | .error e => (some (.error e), [])

def draw : Nat → Enumeration κ σ π → Act κ σ (List (Option (Except Fault π)))
  | 0, _ => pure []
  | n + 1, pulls => do
    let (item, left) ← pulls.next
    let later ← draw n left
    pure (item :: later)

end Enumeration

section Draw
variable {τ : Type} {view : Effect κ → Option τ}
variable {pull : Act κ σ (Option π)} {rest : Enumeration κ σ π}
variable {s s' s'' : σ} {seen later : List τ} {result : Except Fault (Option π)}
variable {n : Nat} {items : List (Option (Except Fault π))}

theorem nextYields (h : Act.Yields view pull s seen result s') :
    Act.Yields view (Enumeration.next (pull :: rest)) s seen
      (.ok (Enumeration.afterPull rest result)) s' := by
  have pulled := Act.yieldsAttempt h
  match result with
  | .ok (some path) => exact List.append_nil seen ▸ Act.yieldsOk pulled (Act.yieldsPure _ s')
  | .ok none => exact List.append_nil seen ▸ Act.yieldsOk pulled (Act.yieldsPure _ s')
  | .error e => exact List.append_nil seen ▸ Act.yieldsOk pulled (Act.yieldsPure _ s')

theorem drawNext (rest : Enumeration κ σ π) (h : Act.Yields view pull s seen result s')
    (more : Act.Yields view (Enumeration.draw n (Enumeration.afterPull rest result).2) s' later
      (.ok items) s'') :
    Act.Yields view (Enumeration.draw (n + 1) (pull :: rest)) s (seen ++ later)
      (.ok ((Enumeration.afterPull rest result).1 :: items)) s'' :=
  Act.yieldsOk (nextYields h) (Act.yieldsMap (_ :: ·) more)

theorem drawSpent (n : Nat) (s : σ) :
    Act.Yields view (Enumeration.draw n ([] : Enumeration κ σ π)) s []
      (.ok (List.replicate n none)) s := by
  induction n with
  | zero => exact Act.yieldsPure [] s
  | succ n ih => exact Act.yieldsOk (Act.yieldsPure (none, []) s) (Act.yieldsMap (none :: ·) ih)

end Draw

end Binding

namespace Windows
open Binding

def PathItem.gives (item : PathItem) : Bool := item.code = .done && !item.absent

def Component.enumerable (c : Component) : Bool :=
  !c.code.fails && !c.absent && !c.asBindings.fails && c.enumeration.refusal?.isNone

namespace Machine
variable (w : Machine)

/-- What a listing gives of its answers, which are counted from an index. -/
def yielded (index : Nat) (items : List PathItem) : List (Except Fault Path) :=
  ((items.takeWhile PathItem.gives).zipIdx index).map (fun (item, i) => .ok ⟨i, item⟩) ++
    ((items.dropWhile PathItem.gives).head?.filter (·.code.fails)).toList.map
      fun item => .error (.bindingEnumeration (w.describe item.code))

def asked (items : List PathItem) : Nat := (items.takeWhile PathItem.gives).length + 1

section Answers
variable {item : PathItem} {items : List PathItem} {index : Nat}

theorem doneGives (gives : item.gives = true) : item.code.fails = false := by
  simp only [PathItem.gives, Bool.and_eq_true, decide_eq_true_eq] at gives
  rw [gives.1]
  decide

theorem yieldedPath (gives : item.gives = true) :
    w.yielded index (item :: items) = .ok ⟨index, item⟩ :: w.yielded (index + 1) items := by
  simp [yielded, gives]

theorem yieldedFault (ends : item.gives = false) (fails : item.code.fails = true) :
    w.yielded index (item :: items) = [.error (.bindingEnumeration (w.describe item.code))] := by
  simp [yielded, ends, Option.filter, fails]

theorem yieldedEnd (ends : item.gives = false) (succeeds : item.code.fails = false) :
    w.yielded index (item :: items) = [] := by
  simp [yielded, ends, succeeds]

theorem yieldedStands {i : Nat} {p : Path} (stands : (w.yielded index items)[i]? = some (.ok p)) :
    p.index = index + i ∧ items[i]? = some p.item := by
  induction items generalizing index i with
  | nil => simp [yielded] at stands
  | cons item items ih =>
    cases gives : item.gives with
    | true =>
      rw [w.yieldedPath gives] at stands
      cases i with
      | zero =>
        cases stands
        exact ⟨rfl, rfl⟩
      | succ i =>
        obtain ⟨place, here⟩ := ih stands
        exact ⟨by omega, here⟩
    | false =>
      cases fails : item.code.fails with
      | true =>
        rw [w.yieldedFault gives fails] at stands
        cases i <;> simp at stands
      | false =>
        rw [w.yieldedEnd gives fails] at stands
        cases stands

theorem pullPathYields (index : Nat) (item : PathItem) (s : Ahead) :
    Act.Yields Effect.call? (w.pullPath index item) s [.nextPath index]
      (if item.code.fails then .error (.bindingEnumeration (w.describe item.code))
        else .ok (if item.gives then some ⟨index, item⟩ else none)) s := by
  have demanded := w.demandYields .bindingEnumeration item.code s
  split
  · rename_i fails
    rw [if_pos fails] at demanded
    exact Act.yieldsOk (Act.yieldsCall _ s) (Act.yieldsError demanded)
  · rename_i succeeds
    rw [if_neg succeeds] at demanded
    have same : (if item.code = .done ∧ !item.absent then some (Path.mk index item) else none) =
        if item.gives then some ⟨index, item⟩ else none := by
      simp [PathItem.gives]
    rw [← same]
    exact Act.yieldsOk (Act.yieldsCall _ s) (Act.yieldsOk demanded (Act.yieldsPure _ s))

theorem rangeFront {α : Type} (a : α) (rest : List α) (n : Nat) :
    (List.range (n + 1)).map ((a :: rest)[·]?) = some a :: (List.range n).map (rest[·]?) := by
  simp [List.range_succ_eq_map, Function.comp_def]

theorem rangeNone {α : Type} (n : Nat) :
    (List.range n).map (([] : List α)[·]?) = List.replicate n none := by
  simp [List.map_const']

theorem pathsFromDrawn (n : Nat) (index : Nat) (items : List PathItem) (s : Ahead) :
    Act.Yields Effect.call? (Enumeration.draw n (w.pathsFrom index items)) s
      ((List.range' index (min n (asked items))).map .nextPath)
      (.ok ((List.range n).map ((w.yielded index items)[·]?))) s := by
  induction items generalizing n index with
  | nil =>
    cases n with
    | zero => exact Act.yieldsPure [] s
    | succ n =>
      have pulled : Act.Yields Effect.call? (pullEnd index) s [.nextPath index] (.ok none) s :=
        Act.yieldsOk (Act.yieldsCall _ s) (Act.yieldsPure none s)
      have spent := drawNext [] pulled (drawSpent n s)
      have once : min (n + 1) (asked []) = 1 := by simp [asked]
      have nothing : w.yielded index [] = [] := rfl
      rw [once, nothing, rangeNone]
      exact spent
  | cons item items ih =>
    cases n with
    | zero => exact Act.yieldsPure [] s
    | succ n =>
      have pulled := w.pullPathYields index item s
      cases gives : item.gives with
      | true =>
        rw [doneGives gives, gives] at pulled
        have drawn := drawNext (w.pathsFrom (index + 1) items) pulled (ih n (index + 1))
        have more : min (n + 1) (asked (item :: items)) = min n (asked items) + 1 := by
          simp only [asked, List.takeWhile_cons_of_pos gives, List.length_cons]
          omega
        rw [more, w.yieldedPath gives, rangeFront]
        exact drawn
      | false =>
        -- This answer is the last one that is called for, whatever stands after it.
        have once : min (n + 1) (asked (item :: items)) = 1 := by simp [asked, gives]
        rw [once]
        cases fails : item.code.fails with
        | true =>
          rw [fails] at pulled
          have drawn := drawNext (w.pathsFrom (index + 1) items) pulled (drawSpent n s)
          rw [w.yieldedFault gives fails, rangeFront, rangeNone]
          exact drawn
        | false =>
          rw [fails, gives] at pulled
          have drawn := drawNext (w.pathsFrom (index + 1) items) pulled (drawSpent n s)
          rw [w.yieldedEnd gives fails, rangeNone]
          exact drawn

end Answers

theorem findComponentYields (infId : String) (s : Ahead) :
    Act.Yields Effect.call? (w.findComponent infId) s [.findComponent infId]
      (match (w.component infId).filter fun c => !c.code.fails && !c.absent with
        | none => .error (.componentNotFound infId)
        | some c => .ok c) s := by
  refine Act.yieldsOk (Act.yieldsCall _ s) ?_
  cases w.component infId with
  | none => exact Act.yieldsFail _ s
  | some c =>
    cases missing : c.code.fails with
    | true =>
      simp only [missing, if_true, Option.filter]
      exact Act.yieldsOk (Act.yieldsQuiet rfl s) (Act.yieldsFail _ s)
    | false =>
      cases unset : c.absent with
      | true =>
        simp only [missing, unset, Option.filter]
        exact Act.yieldsFail _ s
      | false =>
        simp only [missing, unset, Option.filter]
        exact Act.yieldsPure c s

theorem pathsBelowOpened {infId : String} {c : Component} (known : w.component infId = some c)
    (opened : c.enumerable = true) (s : Ahead) :
    Act.Yields Effect.call? (w.pathsBelow infId) s
      [.findComponent infId, .asBindings, .enumeratePaths] (.ok (w.pathsFrom 0 c.paths)) s := by
  simp only [Component.enumerable, Bool.and_eq_true, Bool.not_eq_true', Option.isNone_iff_eq_none]
    at opened
  obtain ⟨⟨⟨there, held⟩, cast⟩, granted⟩ := opened
  have found := w.findComponentYields infId s
  simp only [known, Option.filter, there, held] at found
  have bindings := w.demandYields .bindingEnumeration c.asBindings s
  have listing := w.demandObjectYields .bindingEnumeration c.enumeration s
  rw [cast] at bindings
  rw [granted] at listing
  exact Act.yieldsOk found (Act.yieldsOk (Act.yieldsCall _ s) (Act.yieldsOk bindings
    (Act.yieldsOk (Act.yieldsCall _ s) (Act.yieldsOk listing (Act.yieldsPure _ s)))))

theorem pathsBelowRefused {infId : String}
    (unlisted : ∀ c, w.component infId = some c → c.enumerable = false) (s : Ahead) :
    ∃ e, ((w.pathsBelow infId).run s).result = .error e := by
  have found := w.findComponentYields infId s
  match answer : (w.component infId).filter fun c => !c.code.fails && !c.absent with
  | none =>
    rw [answer] at found
    exact ⟨_, (Act.yieldsError found).result⟩
  | some c =>
    rw [answer] at found
    obtain ⟨known, there⟩ := Option.filter_eq_some_iff.mp answer
    have closed := unlisted c known
    have bindings := w.demandYields .bindingEnumeration c.asBindings s
    have listing := w.demandObjectYields .bindingEnumeration c.enumeration s
    cases cast : c.asBindings.fails with
    | true =>
      rw [cast] at bindings
      exact ⟨_, (Act.yieldsOk found (Act.yieldsOk (Act.yieldsCall _ s)
        (Act.yieldsError bindings))).result⟩
    | false =>
      rw [cast] at bindings
      cases refusal : c.enumeration.refusal? with
      | none => simp [Component.enumerable, there, cast, refusal] at closed
      | some code =>
        rw [refusal] at listing
        exact ⟨_, (Act.yieldsOk found (Act.yieldsOk (Act.yieldsCall _ s) (Act.yieldsOk bindings
          (Act.yieldsOk (Act.yieldsCall _ s) (Act.yieldsError listing))))).result⟩

end Machine
end Windows
end VmBridge
