/-! Log levels in order of how much they let through. -/
namespace VmBridge.Log

inductive Level where
  | off
  | error
  | warn
  | info
  | debug
  | trace
  deriving DecidableEq, Repr, Inhabited

namespace Level

def all : List Level := [off, error, warn, info, debug, trace]

def rank : Level → Nat
  | off => 0
  | error => 1
  | warn => 2
  | info => 3
  | debug => 4
  | trace => 5

def ofRank : Nat → Level
  | 0 => off
  | 1 => error
  | 2 => warn
  | 3 => info
  | 4 => debug
  | _ => trace

theorem ofRankRank (l : Level) : ofRank l.rank = l := by cases l <;> rfl

theorem rankOfRank (n : Nat) : (ofRank n).rank = min n 5 := by
  match n with
  | 0 | 1 | 2 | 3 | 4 => rfl
  | n + 5 => simp [ofRank, rank]

instance : LE Level := ⟨fun a b => a.rank ≤ b.rank⟩
instance (a b : Level) : Decidable (a ≤ b) := inferInstanceAs (Decidable (a.rank ≤ b.rank))

def raised (l : Level) (steps : Nat) : Level := ofRank (l.rank + steps)

def word : Level → String
  | off => "off"
  | error => "error"
  | warn => "warn"
  | info => "info"
  | debug => "debug"
  | trace => "trace"

def title (l : Level) : String := l.word.toUpper

def ofWord? (s : String) : Option Level := all.find? (·.word = s)

theorem ofWordWord (l : Level) : ofWord? l.word = some l := by cases l <;> decide

end Level
end VmBridge.Log
