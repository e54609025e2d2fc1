import VmBridge.CommandLine.BindCall
import VmBridge.Proofs.CommandLine.Operands
import VmBridge.Proofs.CommandLine.Spelling
/-! The operands of the binding tool. Options part them into groups, which come together again: a
line that is understood gives all of its operands, in their order, and nothing else. -/
namespace VmBridge.CommandLine
open Text (Bytes)

def awaitsValue (arg : Bytes) : Bool :=
  arg = Text.Utf8.encode "--config" ||
    arg.head? = some dash && arg.tail.dropWhile (· = letter 'v') = [letter 'c']

def operandsAmong (valued : Bool) : List Bytes → List Bytes
  | [] => []
  | arg :: rest =>
    if valued then operandsAmong false rest
    else if standsAsValue arg then arg :: operandsAmong false rest
    else if arg = [dash, dash] then rest
    else operandsAmong (awaitsValue arg) rest

def Ask.calm : Ask → Bool
  | config _ | syslog | verbose => true
  | help | version | unknown => false

theorem acceptCalm {o o' : Options} {ask : Ask} (h : o.accept ask = .ok o') : ask.calm = true := by
  cases ask with
  | config | syslog | verbose => rfl
  | help | version | unknown => cases h

theorem acceptAllCalm {o o' : Options} {asks : List Ask} (h : o.acceptAll asks = .ok o') :
    ∀ ask ∈ asks, ask.calm = true := by
  induction asks generalizing o with
  | nil => simp
  | cons ask asks ih =>
    unfold Options.acceptAll at h
    split at h
    · rename_i taken accepted
      exact List.forall_mem_cons.mpr ⟨acceptCalm accepted, ih h⟩
    · cases h

section Among
variable {rest : List Bytes}

theorem separateValueAmong (calm : ∀ ask ∈ (separateValue rest).asks, ask.calm = true) :
    operandsAmong false (separateValue rest).rest = operandsAmong true rest := by
  cases rest with
  | nil => simp [separateValue, Ask.calm] at calm
  | cons value rest =>
    by_cases stands : standsAsValue value = true
    · rw [separateValueStands stands]
      rfl
    · simp [separateValue, stands, Ask.calm] at calm

theorem readClusterAmong {letters : Bytes}
    (calm : ∀ ask ∈ (readCluster letters rest).asks, ask.calm = true) :
    operandsAmong false (readCluster letters rest).rest =
      operandsAmong (letters.dropWhile (· = letter 'v') = [letter 'c']) rest := by
  induction letters with
  | nil => rfl
  | cons b more ih =>
    unfold readCluster at calm ⊢
    by_cases path : b = letter 'c'
    · subst path
      have other : letter 'c' ≠ letter 'v' := by decide
      simp only [if_true] at calm ⊢
      rw [List.dropWhile_cons_of_neg (by simpa using other)]
      cases more with
      | nil => exact separateValueAmong calm
      | cons b more => simp [attachedValue]
    rw [if_neg path] at calm ⊢
    by_cases verbose : b = letter 'v'
    · subst verbose
      simp only [if_true] at calm ⊢
      rw [List.dropWhile_cons_of_pos (by simp)]
      exact ih (List.forall_mem_cons.mp calm).2
    rw [if_neg verbose] at calm ⊢
    by_cases help : b = letter 'h'
    · simp [help, Reading.asking, Ask.calm] at calm
    rw [if_neg help] at calm ⊢
    by_cases version : b = letter 'V'
    · simp [version, Reading.asking, Ask.calm] at calm
    · simp [version, Ask.calm] at calm

theorem cutAtEqualsNone {more name : Bytes} (h : cutAtEquals more = (name, none)) :
    more = name := by
  induction more generalizing name with
  | nil =>
    cases h
    rfl
  | cons b more ih =>
    unfold cutAtEquals at h
    split at h
    · cases h
    · simp only [Prod.mk.injEq] at h
      rw [← h.1]
      exact congrArg (b :: ·) (ih (Prod.ext rfl h.2))

theorem wordLong {arg name : Bytes} {value : Option Bytes} (h : Word.read arg = .long name value) :
    ∃ more, arg = dash :: dash :: more ∧ more ≠ [] ∧ cutAtEquals more = (name, value) := by
  unfold Word.read at h
  repeat' split at h
  all_goals cases h
  rename_i a b more first second filled
  exact ⟨more, by rw [first, second], filled, rfl⟩

theorem wordCluster {arg letters : Bytes} (h : Word.read arg = .cluster letters) :
    arg = dash :: letters ∧ letters ≠ [] ∧ letters.head? ≠ some dash := by
  unfold Word.read at h
  repeat' split at h
  all_goals cases h
  rename_i a b more first other
  exact ⟨by rw [first], by simp, by simpa using other⟩

theorem awaitsLong {arg name : Bytes} {value : Option Bytes}
    (h : Word.read arg = .long name value) :
    awaitsValue arg = (value.isNone && named name "config") := by
  obtain ⟨more, rfl, filled, cut⟩ := wordLong h
  have word : Text.Utf8.encode "--config" = dash :: dash :: Text.Utf8.encode "config" := by decide
  have unlettered : (dash :: more).dropWhile (· = letter 'v') ≠ [letter 'c'] := by
    rw [List.dropWhile_cons_of_neg (by decide)]
    simp [show dash ≠ letter 'c' by decide]
  have same : awaitsValue (dash :: dash :: more) = decide (more = Text.Utf8.encode "config") := by
    simp [awaitsValue, word, unlettered]
  rw [same]
  cases value with
  | none =>
    rw [cutAtEqualsNone cut]
    rfl
  | some value =>
    refine decide_eq_false ?_
    rintro rfl
    have whole : cutAtEquals (Text.Utf8.encode "config") = (Text.Utf8.encode "config", none) := by
      decide
    rw [whole] at cut
    cases cut

theorem readLongAmong {arg name : Bytes} {value : Option Bytes}
    (h : Word.read arg = .long name value)
    (calm : ∀ ask ∈ (readLong false name value rest).asks, ask.calm = true) :
    operandsAmong false (readLong false name value rest).rest =
      operandsAmong (awaitsValue arg) rest := by
  rw [awaitsLong h]
  unfold readLong at calm ⊢
  cases value with
  | some value => rfl
  | none =>
    dsimp only at calm ⊢
    by_cases config : named name "config" = true
    · rw [if_pos config] at calm ⊢
      rw [config]
      exact separateValueAmong calm
    · rw [if_neg config, Bool.not_eq_true _ |>.mp config]
      rfl

theorem amongOption {arg : Bytes} (dashed : standsAsValue arg = false) (whole : arg ≠ [dash, dash]) :
    operandsAmong false (arg :: rest) = operandsAmong (awaitsValue arg) rest := by
  simp [operandsAmong, dashed, whole]

theorem readsAmong {arg : Bytes} {r : Reading} (h : Reads false arg rest r)
    (calm : ∀ ask ∈ r.asks, ask.calm = true) :
    operandsAmong false r.rest = operandsAmong false (arg :: rest) := by
  cases h with
  | long read same =>
    obtain ⟨more, rfl, filled, _⟩ := wordLong read
    subst same
    rw [amongOption (by simp [standsAsValue]) (by simpa using filled)]
    exact readLongAmong read calm
  | @cluster letters read same =>
    obtain ⟨rfl, filled, first⟩ := wordCluster read
    subst same
    have short : awaitsValue (dash :: letters) =
        decide (letters.dropWhile (· = letter 'v') = [letter 'c']) := by
      have other : dash :: letters ≠ Text.Utf8.encode "--config" := by
        have word : Text.Utf8.encode "--config" = dash :: dash :: Text.Utf8.encode "config" := by
          decide
        rw [word]
        rintro same
        cases same
        exact first rfl
      simp only [awaitsValue, other]
      rfl
    rw [amongOption (by simp [standsAsValue, filled]) ?_, short]
    · exact readClusterAmong calm
    · rintro same
      cases same
      exact first rfl

end Among

theorem wordPlainStands {arg bytes : Bytes} (h : Word.read arg = .plain bytes) :
    standsAsValue arg = true := by
  unfold Word.read at h
  repeat' split at h
  all_goals cases h
  · rfl
  · rename_i b
    by_cases other : b = dash
    · subst other
      rfl
    · simp [standsAsValue, other]
  · rename_i a b more other
    simp [standsAsValue, other]

namespace Gathered

def all (g : Gathered) : List String := g.operands ++ g.group

variable {g g' : Gathered} {call : BindCall} {args : List Bytes}

theorem closedWhole (h : g.closed = .ok g') : g' = ⟨g.options, g.all, []⟩ := by
  unfold closed at h
  split at h
  · rename_i empty
    cases h
    rw [all, empty, List.append_nil, ← empty]
  · split at h
    · cases h
      rfl
    · cases h

theorem finishedAll (h : g.finished = .ok call) : call = ⟨g.options, g.all⟩ := by
  unfold finished at h
  split at h
  · rename_i g' ends
    split at h
    · cases h
    · cases h
      rw [closedWhole ends]
  · cases h

theorem takingAll {bytes : Bytes} (h : g.taking bytes = .ok g') :
    g'.all.map Text.Utf8.encode = g.all.map Text.Utf8.encode ++ [bytes] := by
  unfold taking at h
  split at h
  · rename_i operand decoded
    cases h
    simp [all, Text.Utf8.decodeWritten decoded]
  · cases h

theorem askedAll {r : Reading} (h : g.asked r = .ok g') :
    g'.all = g.all ∧ ∀ ask ∈ r.asks, ask.calm = true := by
  unfold asked at h
  split at h
  · rename_i closed ends
    split at h
    · rename_i o taken
      cases settled : o.settle r.waiting with
      | error e =>
        rw [settled] at h
        cases h
      | ok o' =>
        rw [settled] at h
        cases h
        refine ⟨?_, acceptAllCalm taken⟩
        rw [closedWhole ends, all, List.append_nil]
    · cases h
  · cases h

theorem readPlainlyAll (h : g.readPlainly args = .ok call) :
    call.operands.map Text.Utf8.encode = g.all.map Text.Utf8.encode ++ args := by
  induction args generalizing g with
  | nil =>
    rw [finishedAll h, List.append_nil]
  | cons bytes rest ih =>
    unfold readPlainly at h
    split at h
    · rename_i g' taken
      rw [ih h, takingAll taken, List.append_assoc, List.singleton_append]
    · cases h

theorem readAll (h : g.read args = .ok call) :
    call.operands.map Text.Utf8.encode =
      g.all.map Text.Utf8.encode ++ operandsAmong false args := by
  -- Ending a group moves its operands and loses none, so `all` stands while options are read.
  induction g, args using Gathered.read.induct with
  | case1 g =>
    rw [read] at h
    rw [finishedAll h]
    simp [operandsAmong]
  | case2 g arg rest bytes plain g' taken ih =>
    simp only [read, plain, taken] at h
    have stands := wordPlainStands plain
    obtain rfl := wordPlain plain
    rw [ih h, takingAll taken, List.append_assoc]
    simp [operandsAmong, stands]
  | case3 g arg rest bytes plain e refused =>
    simp only [read, plain, refused] at h
    cases h
  | case4 g arg rest escape =>
    simp only [read, escape] at h
    obtain rfl := wordEscape escape
    rw [readPlainlyAll h]
    rfl
  | case5 g arg rest name value long g' asked ih =>
    simp only [read, long, asked] at h
    obtain ⟨same, calm⟩ := askedAll asked
    rw [ih h, same, readsAmong (.long long rfl) calm]
  | case6 g arg rest name value long e refused =>
    simp only [read, long, refused] at h
    cases h
  | case7 g arg rest letters cluster g' asked ih =>
    simp only [read, cluster, asked] at h
    obtain ⟨same, calm⟩ := askedAll asked
    rw [ih h, same, readsAmong (.cluster cluster rfl) calm]
  | case8 g arg rest letters cluster e refused =>
    simp only [read, cluster, refused] at h
    cases h

end Gathered

theorem gatheredAll {argv : List Bytes} {call : BindCall} (h : BindCall.ofArgv argv = .ok call) :
    call.operands.map Text.Utf8.encode = operandsAmong false argv.tail := Gathered.readAll h

end VmBridge.CommandLine
