import VmBridge.Text.Quoted
/-! A program with its arguments. Each argument is one entry of a vector, so no character in
it has a meaning to a shell. -/
namespace VmBridge

structure Command where
  program : String
  args : List String
  deriving DecidableEq, Repr, Inhabited

namespace Command

def words (c : Command) : List String := c.program :: c.args

def line (c : Command) : String := " ".intercalate c.words

def ofWords : List String → Command
  | [] => ⟨"", []⟩
  | program :: args => ⟨program, args⟩

theorem ofWordsWords (c : Command) : ofWords c.words = c := rfl

def quoted (c : Command) : String :=
  "ShellCommand \x7b program: " ++ Text.quoted c.program ++
    ", args: " ++ Text.quotedList c.args ++ " \x7d"

end Command
end VmBridge
