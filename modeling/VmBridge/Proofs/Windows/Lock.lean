import VmBridge.Proofs.Windows.Closing
/-! When the write lock is taken for held. The session goes by the name of a holder, not by the
code that grants the lock, and the two differ where a success grants nothing and names nobody,
or grants the lock and names somebody. -/
namespace VmBridge.Windows
open Binding

def Machine.grantsLock (w : Machine) : Prop := w.lock = .done

theorem doneSucceeds : Code.done.fails = false := by decide

theorem closedBegun {w : Machine} {timeout : UInt32} {calls : List Call}
    (h : Closed w timeout calls) : .beginSession ∈ calls ↔ w.passesLock timeout calls := by
  refine ⟨fun begun => ?_, (closedReleased h).begun⟩
  cases h with
  | unlocked unclosed held unbegun => exact absurd begun unbegun
  | locked opened => exact ⟨List.mem_append_left _ opened.passed.1, opened.passed.2⟩

theorem closedReleases {w : Machine} {timeout : UInt32} {calls : List Call}
    (h : Closed w timeout calls) :
    calls.count .releaseLock = if .beginSession ∈ calls then 1 else 0 := by
  have released := closedReleased h
  split
  · rename_i begun
    exact released.releasedOnce ((closedBegun h).mp begun)
  · rename_i unbegun
    have held : ¬ w.passesLock timeout calls := fun passed => unbegun (released.begun passed)
    exact List.count_eq_zero.mpr (released.neverReleased held).2

theorem grantedAsPassed (w : Machine) :
    ((w.lock.fails = false ∧ w.lockHolder = none) ↔ w.grantsLock) ↔
      (w.lock.fails = false → (w.grantsLock ↔ w.lockHolder = none)) := by
  have succeeds : w.grantsLock → w.lock.fails = false := fun granted => by
    rw [show w.lock = .done from granted]
    exact doneSucceeds
  constructor
  · intro same fine
    exact ⟨fun granted => (same.mpr granted).2, fun unnamed => same.mp ⟨fine, unnamed⟩⟩
  · intro same
    exact ⟨fun ⟨fine, unnamed⟩ => (same fine).mpr unnamed,
      fun granted => ⟨succeeds granted, (same (succeeds granted)).mp granted⟩⟩

/-- A session begins where the lock was asked for and a success named no holder; it is released
once if it began, else never. That is the lock that was granted exactly where a success names a
holder if and only if it grants nothing. -/
theorem lockTakenForHeld (w : Machine) (timeout : UInt32) (infId wanted : String) (on : Bool)
    (s : Ahead) :
    let calls := Trace.calls (((w.backend timeout).toggle infId wanted on).run s).trace
    (.beginSession ∈ calls ↔ w.passesLock timeout calls) ∧
      calls.count .releaseLock = (if .beginSession ∈ calls then 1 else 0) ∧
      (.acquireLock timeout ∈ calls → ((.beginSession ∈ calls ↔ w.grantsLock) ↔
        (w.lock.fails = false → (w.grantsLock ↔ w.lockHolder = none)))) := by
  intro calls
  obtain ⟨made, result, s', closed, run⟩ := w.toggleClosed timeout infId wanted on s
  have same : calls = made := (run w.ending w.release).seen
  rw [same]
  refine ⟨closedBegun closed, closedReleases closed, fun asked => ?_⟩
  rw [← grantedAsPassed, closedBegun closed, Machine.passesLock]
  simp only [asked, true_and]

theorem lockMistaken :
    let unnamed : Machine := { lock := 1 }
    let named : Machine := { lock := .done, lockHolder := some [] }
    let calls := fun (w : Machine) =>
      Trace.calls (((w.backend 5000).toggle "ms_bridge" "ms_bridge->dev" true).run {}).trace
    (¬ unnamed.grantsLock ∧ .beginSession ∈ calls unnamed ∧ .releaseLock ∈ calls unnamed) ∧
      named.grantsLock ∧ .acquireLock 5000 ∈ calls named ∧ .releaseLock ∉ calls named := by
  refine ⟨⟨?_, ?_, ?_⟩, rfl, ?_, ?_⟩
  · unfold Machine.grantsLock; decide
  · decide
  · decide
  · decide
  · decide

end VmBridge.Windows
