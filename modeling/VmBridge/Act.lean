import VmBridge.Fault
import VmBridge.Log.Record
/-! Requests as functions of the state of the world. A run gives a result or a fault, the
state it leaves, and everything it did in order: the calls made, the records logged, the
bytes written. What a run shows on one channel is a view of that one list. -/
namespace VmBridge
open Text (Bytes)

inductive Effect (κ : Type) where
  | call (c : κ)
  | log (r : Log.Record)
  | out (bytes : Bytes)
  | err (bytes : Bytes)
  deriving Repr

structure Ran (κ σ α : Type) where
  result : Except Fault α
  state : σ
  trace : List (Effect κ)

def Act (κ σ α : Type) : Type := σ → Ran κ σ α

namespace Act
variable {κ σ α β : Type}

def run (x : Act κ σ α) (s : σ) : Ran κ σ α := x s

protected def pure (a : α) : Act κ σ α := fun s => ⟨.ok a, s, []⟩

protected def bind (x : Act κ σ α) (f : α → Act κ σ β) : Act κ σ β := fun s =>
  match x s with
  | ⟨.ok a, s', before⟩ =>
    let after := f a s'
    ⟨after.result, after.state, before ++ after.trace⟩
  | ⟨.error e, s', before⟩ => ⟨.error e, s', before⟩

instance : Monad (Act κ σ) where
  pure := Act.pure
  bind := Act.bind

def fail (e : Fault) : Act κ σ α := fun s => ⟨.error e, s, []⟩

def ofExcept : Except Fault α → Act κ σ α
  | .ok a => Act.pure a
  | .error e => fail e

def attempt (x : Act κ σ α) : Act κ σ (Except Fault α) := fun s =>
  let r := x s
  ⟨.ok r.result, r.state, r.trace⟩

structure Observed (κ α : Type) where
  result : Except Fault α
  trace : List (Effect κ)

def observed (x : Act κ σ α) : Act κ σ (Observed κ α) := fun s =>
  let r := x s
  ⟨.ok ⟨r.result, r.trace⟩, r.state, r.trace⟩

def traced (x : Act κ σ α) : Act κ σ (α × List (Effect κ)) := fun s =>
  let r := x s
  ⟨r.result.map (·, r.trace), r.state, r.trace⟩

def closing (x : Act κ σ α) (cleanup : Act κ σ Unit) : Act κ σ α := fun s =>
  let r := x s
  let c := cleanup r.state
  ⟨r.result, c.state, r.trace ++ c.trace⟩

def undoing (x : Act κ σ α) (cleanup : Act κ σ Unit) : Act κ σ α := fun s =>
  match x s with
  | ⟨.ok a, s', trace⟩ => ⟨.ok a, s', trace⟩
  | ⟨.error e, s', trace⟩ => ⟨.error e, (cleanup s').state, trace ++ (cleanup s').trace⟩

def mapFault (f : Fault → Fault) (x : Act κ σ α) : Act κ σ α := fun s =>
  let r := x s
  ⟨r.result.mapError f, r.state, r.trace⟩

def emit (e : Effect κ) : Act κ σ Unit := fun s => ⟨.ok (), s, [e]⟩
def call (c : κ) : Act κ σ Unit := emit (.call c)
def log (level : Log.Level) (origin : Log.Origin) (message : String) : Act κ σ Unit :=
  emit (.log ⟨level, origin, message⟩)
def write (bytes : Bytes) : Act κ σ Unit := emit (.out bytes)
def print (text : String) : Act κ σ Unit := emit (.out (Text.Utf8.encode text))
def complain (text : String) : Act κ σ Unit := emit (.err (Text.Utf8.encode text))

def get : Act κ σ σ := fun s => ⟨.ok s, s, []⟩
def modify (f : σ → σ) : Act κ σ Unit := fun s => ⟨.ok (), f s, []⟩

def take (f : σ → α × σ) : Act κ σ α := fun s => let (a, s') := f s; ⟨.ok a, s', []⟩

@[simp] theorem runPure (a : α) (s : σ) :
    (pure a : Act κ σ α).run s = ⟨.ok a, s, []⟩ := rfl

theorem runBind (x : Act κ σ α) (f : α → Act κ σ β) (s : σ) :
    (x >>= f).run s =
      match x.run s with
      | ⟨.ok a, s', before⟩ =>
        ⟨((f a).run s').result, ((f a).run s').state, before ++ ((f a).run s').trace⟩
      | ⟨.error e, s', before⟩ => ⟨.error e, s', before⟩ := rfl

@[simp] theorem runFail (e : Fault) (s : σ) :
    (fail e : Act κ σ α).run s = ⟨.error e, s, []⟩ := rfl

@[simp] theorem runEmit (e : Effect κ) (s : σ) :
    (emit e : Act κ σ Unit).run s = ⟨.ok (), s, [e]⟩ := rfl

@[simp] theorem runAttempt (x : Act κ σ α) (s : σ) :
    x.attempt.run s = ⟨.ok (x.run s).result, (x.run s).state, (x.run s).trace⟩ := rfl

theorem runTraced (x : Act κ σ α) (s : σ) : x.traced.run s =
    ⟨(x.run s).result.map (·, (x.run s).trace), (x.run s).state, (x.run s).trace⟩ := rfl

theorem runClosing (x : Act κ σ α) (cleanup : Act κ σ Unit) (s : σ) :
    (x.closing cleanup).run s =
      ⟨(x.run s).result, (cleanup.run (x.run s).state).state,
        (x.run s).trace ++ (cleanup.run (x.run s).state).trace⟩ := rfl

end Act

namespace Effect
variable {κ : Type}

def call? : Effect κ → Option κ
  | call c => some c
  | _ => none

def log? : Effect κ → Option Log.Record
  | log r => some r
  | _ => none

def out? : Effect κ → Option Bytes
  | out bytes => some bytes
  | _ => none

def err? : Effect κ → Option Bytes
  | err bytes => some bytes
  | _ => none

end Effect

namespace Trace
variable {κ : Type}

def calls (t : List (Effect κ)) : List κ := t.filterMap Effect.call?
def logs (t : List (Effect κ)) : List Log.Record := t.filterMap Effect.log?
def stdout (t : List (Effect κ)) : Bytes := (t.filterMap Effect.out?).flatten
def stderr (t : List (Effect κ)) : Bytes := (t.filterMap Effect.err?).flatten

@[simp] theorem callsAppend (a b : List (Effect κ)) : calls (a ++ b) = calls a ++ calls b := by
  simp [calls]

@[simp] theorem logsAppend (a b : List (Effect κ)) : logs (a ++ b) = logs a ++ logs b := by
  simp [logs]

@[simp] theorem stdoutAppend (a b : List (Effect κ)) :
    stdout (a ++ b) = stdout a ++ stdout b := by
  simp [stdout]

end Trace
end VmBridge
