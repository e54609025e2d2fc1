import VmBridge.CommandLine.VerbCall
import VmBridge.Proofs.Text.Utf8
/-! Where the operands of a call come from. Each is one argument after the verb's word, byte for
byte; of the arguments after that word only one `--` is no operand. -/
namespace VmBridge.CommandLine
open Text (Bytes)

/-- The operands are these arguments, less one `--` at most. -/
def Given (operands : List String) (args : List Bytes) : Prop :=
  operands.map Text.Utf8.encode = args ∨
    ∃ before after, args = before ++ [dash, dash] :: after ∧
      operands.map Text.Utf8.encode = before ++ after

theorem takeOperandWritten {kind : Verb.Kind} {taken taken' : List String} {bytes : Bytes}
    (h : takeOperand kind taken bytes = .ok taken') :
    ∃ operand, taken' = taken ++ [operand] ∧ Text.Utf8.encode operand = bytes := by
  unfold takeOperand at h
  split at h
  · cases h
  split at h
  · rename_i operand decoded
    cases h
    exact ⟨operand, rfl, Text.Utf8.decodeWritten decoded⟩
  · cases h

theorem readPlainlyWritten {kind : Verb.Kind} {args : List Bytes} {taken all : List String}
    (h : readPlainly kind taken args = .ok all) :
    ∃ more, all = taken ++ more ∧ more.map Text.Utf8.encode = args := by
  induction args generalizing taken with
  | nil =>
    cases h
    exact ⟨[], by simp, rfl⟩
  | cons bytes rest ih =>
    unfold readPlainly at h
    split at h
    · rename_i taken' taking
      obtain ⟨operand, rfl, written⟩ := takeOperandWritten taking
      obtain ⟨more, rfl, same⟩ := ih h
      exact ⟨operand :: more, by simp, by simp [written, same]⟩
    · cases h

theorem wordPlain {arg bytes : Bytes} (h : Word.read arg = .plain bytes) : bytes = arg := by
  unfold Word.read at h
  repeat' split at h
  all_goals cases h
  all_goals rfl

theorem wordEscape {arg : Bytes} (h : Word.read arg = .escape) : arg = [dash, dash] := by
  unfold Word.read at h
  repeat' split at h
  all_goals cases h
  simp_all

theorem readOperandsGiven {kind : Verb.Kind} {args : List Bytes} {taken all : List String}
    (h : readOperands kind taken args = .ok all) :
    ∃ more, all = taken ++ more ∧ Given more args := by
  induction args generalizing taken with
  | nil =>
    cases h
    exact ⟨[], by simp, Or.inl rfl⟩
  | cons arg rest ih =>
    unfold readOperands at h
    split at h
    · rename_i bytes plain
      split at h
      · rename_i taken' taking
        obtain ⟨operand, rfl, written⟩ := takeOperandWritten taking
        obtain ⟨more, rfl, given⟩ := ih h
        rw [wordPlain plain] at written
        refine ⟨operand :: more, by simp, ?_⟩
        rcases given with same | ⟨before, after, split, same⟩
        · exact Or.inl (by simp [written, same])
        · exact Or.inr ⟨arg :: before, after, by simp [split], by simp [written, same]⟩
      · cases h
    · rename_i escape
      obtain ⟨more, rfl, same⟩ := readPlainlyWritten h
      exact ⟨more, rfl, Or.inr ⟨[], rest, by simp [wordEscape escape], same⟩⟩
    · cases h

theorem fillOperands {kind : Verb.Kind} {operands : List String} {verb : Verb}
    (h : kind.fill? operands = some verb) : verb.kind = kind ∧ verb.operands = operands := by
  unfold Verb.Kind.fill? at h
  split at h <;> cases h <;> exact ⟨rfl, rfl⟩

theorem kindOfWritten {bytes : Bytes} {kind : Verb.Kind} (h : kindOf? bytes = some kind) :
    bytes = Text.Utf8.encode kind.word := by
  obtain ⟨word, decoded, found⟩ := Option.bind_eq_some_iff.mp h
  have same : kind.word = word := by simpa using List.find?_some found
  rw [same, Text.Utf8.decodeWritten decoded]

theorem readVerbGiven {kind : Verb.Kind} {args : List Bytes} {verb : Verb}
    (h : readVerb kind args = .ok verb) : verb.kind = kind ∧ Given verb.operands args := by
  unfold readVerb at h
  split at h
  · rename_i operands read
    split at h
    · rename_i filled found
      cases h
      obtain ⟨more, rfl, given⟩ := readOperandsGiven read
      obtain ⟨same, operands⟩ := fillOperands found
      rw [operands]
      exact ⟨same, given⟩
    · cases h
  · cases h

theorem callOfVerb {o : Options} {waiting : Option Bytes} {kind : Verb.Kind} {args : List Bytes}
    {call : VerbCall} (h : callOf o waiting kind args = .ok call) :
    readVerb kind args = .ok call.verb := by
  unfold callOf at h
  split at h
  · rename_i verb read
    cases settled : o.settle waiting with
    | error e => rw [settled] at h; cases h
    | ok o' =>
      rw [settled] at h
      cases h
      exact read
  · cases h

theorem separateValueSuffix (rest : List Bytes) : (separateValue rest).rest <:+ rest := by
  cases rest with
  | nil => exact List.suffix_rfl
  | cons value rest =>
    simp only [separateValue]
    split
    · exact List.suffix_cons value rest
    · exact List.suffix_rfl

theorem readLongSuffix (syslog : Bool) (name : Bytes) (value : Option Bytes) (rest : List Bytes) :
    (readLong syslog name value rest).rest <:+ rest := by
  unfold readLong
  split
  · exact List.suffix_rfl
  · split
    · exact separateValueSuffix rest
    · exact List.suffix_rfl

theorem readClusterSuffix (letters : Bytes) (rest : List Bytes) :
    (readCluster letters rest).rest <:+ rest := by
  induction letters with
  | nil => exact List.suffix_rfl
  | cons b more ih =>
    unfold readCluster
    split
    · unfold attachedValue
      split
      · exact separateValueSuffix rest
      · exact List.suffix_rfl
    · repeat' split
      · exact ih
      · exact ih
      · exact ih
      · exact List.suffix_rfl

def Asked (verb : Verb) (args : List Bytes) : Prop :=
  ∃ options operands, args = options ++ Text.Utf8.encode verb.kind.word :: operands ∧
    Given verb.operands operands

theorem askedBelow {verb : Verb} {args rest : List Bytes} (arg : Bytes) (below : rest <:+ args)
    (h : Asked verb rest) : Asked verb (arg :: args) := by
  obtain ⟨front, rfl⟩ := below
  obtain ⟨options, operands, rfl, given⟩ := h
  exact ⟨arg :: front ++ options, operands, by simp, given⟩

theorem readVerbCallAsked {o : Options} {waiting : Option Bytes} {args : List Bytes}
    {call : VerbCall} (h : readVerbCall o waiting args = .ok call) : Asked call.verb args := by
  induction o, waiting, args using readVerbCall.induct with
  | case1 =>
    rw [readVerbCall] at h
    cases h
  | case2 o waiting arg rest bytes plain kind found =>
    simp only [readVerbCall, plain, found] at h
    obtain ⟨same, given⟩ := readVerbGiven (callOfVerb h)
    refine ⟨[], rest, ?_, given⟩
    rw [same, ← kindOfWritten found, wordPlain plain]
    rfl
  | case3 o waiting arg rest bytes plain unknown =>
    simp only [readVerbCall, plain, unknown] at h
    cases h
  | case4 o waiting arg rest escape =>
    simp only [readVerbCall, escape] at h
    cases h
  | case5 o waiting arg rest name value long o' taken r ih =>
    simp only [readVerbCall, long, taken] at h
    exact askedBelow arg (readLongSuffix true name value rest) (ih h)
  | case6 o waiting arg rest name value long e taken =>
    simp only [readVerbCall, long, taken] at h
    cases h
  | case7 o waiting arg rest letters cluster o' taken r ih =>
    simp only [readVerbCall, cluster, taken] at h
    exact askedBelow arg (readClusterSuffix letters rest) (ih h)
  | case8 o waiting arg rest letters cluster e taken =>
    simp only [readVerbCall, cluster, taken] at h
    cases h

end VmBridge.CommandLine
