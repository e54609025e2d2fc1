import VmBridge.CommandLine.VerbCall
/-! The options in front of a verb, as they may be written: in any order, and each in any of its
spellings. A value in an argument of its own is still waiting when the next option is read. -/
namespace VmBridge.CommandLine
open Text (Bytes)

inductive Spelling where
  | assigned (path : Bytes)
  | separate (path : Bytes)
  | syslog
  | verbose
  | cluster (count : Nat) (path : Option Bytes)
  deriving DecidableEq, Repr

namespace Spelling

def written : Spelling → List Bytes
  | assigned path => [Text.Utf8.encode "--config=" ++ path]
  | separate path => [Text.Utf8.encode "--config", path]
  | syslog => [Text.Utf8.encode "--syslog"]
  | verbose => [Text.Utf8.encode "--verbose"]
  | cluster count none => [dash :: List.replicate count (letter 'v')]
  | cluster count (some path) =>
    [dash :: (List.replicate count (letter 'v') ++ [letter 'c']), path]

def path? : Spelling → Option Bytes
  | assigned path | separate path => some path
  | cluster _ path => path
  | syslog | verbose => none

def count : Spelling → Nat
  | verbose => 1
  | cluster count _ => count
  | assigned _ | separate _ | syslog => 0

def total : List Spelling → Nat
  | [] => 0
  | spelling :: rest => spelling.count + total rest

def asks : Spelling → List Ask
  | assigned path => [.config path]
  | separate _ => []
  | syslog => [.syslog]
  | verbose => [.verbose]
  | cluster count _ => List.replicate count .verbose

def waits? : Spelling → Option Bytes
  | separate path => some path
  | cluster _ path => path
  | assigned _ | syslog | verbose => none

def Proper : Spelling → Prop
  | assigned path => path ≠ []
  | separate path | cluster _ (some path) => path ≠ [] ∧ standsAsValue path = true
  | cluster count none => count ≠ 0
  | syslog | verbose => True

end Spelling

theorem cutAtEqualsValue {name : Bytes} (plain : equals ∉ name) (value : Bytes) :
    cutAtEquals (name ++ equals :: value) = (name, some value) := by
  induction name with
  | nil => simp [cutAtEquals]
  | cons b name ih =>
    simp only [List.mem_cons, not_or] at plain
    simp [cutAtEquals, Ne.symm plain.1, ih plain.2]

theorem readClusterLetters (n : Nat) (letters : Bytes) (rest : List Bytes) :
    readCluster (List.replicate n (letter 'v') ++ letters) rest =
      { readCluster letters rest with
        asks := List.replicate n .verbose ++ (readCluster letters rest).asks } := by
  induction n with
  | zero => rfl
  | succ n ih =>
    rw [List.replicate_succ, List.cons_append, readCluster, if_neg (by decide), if_pos rfl, ih]
    rfl

theorem separateValueStands {value : Bytes} (stands : standsAsValue value = true)
    (rest : List Bytes) :
    separateValue (value :: rest) = { asks := [], waiting := some value, rest } := by
  rw [separateValue, if_pos stands]

def onward (o : Options) (waiting : Option Bytes) (r : Reading) : Except Ending VerbCall :=
  match o.take waiting r with
  | .ok o' => readVerbCall o' r.waiting r.rest
  | .error e => .error e

section Written
variable (o : Options) (waiting : Option Bytes) (args : List Bytes)

theorem readLongWord {word name : Bytes} {value : Option Bytes}
    (long : Word.read word = .long name value) :
    readVerbCall o waiting (word :: args) = onward o waiting (readLong true name value args) := by
  rw [readVerbCall, long]
  rfl

theorem readClusterWord {word letters : Bytes} (cluster : Word.read word = .cluster letters) :
    readVerbCall o waiting (word :: args) = onward o waiting (readCluster letters args) := by
  rw [readVerbCall, cluster]
  rfl

theorem assignedWord (path : Bytes) : Word.read (Text.Utf8.encode "--config=" ++ path) =
    .long (Text.Utf8.encode "config") (some path) := by
  have parts : Text.Utf8.encode "--config=" =
      dash :: dash :: (Text.Utf8.encode "config" ++ [equals]) := by decide
  have cut : cutAtEquals (Text.Utf8.encode "config" ++ equals :: path) =
      (Text.Utf8.encode "config", some path) := cutAtEqualsValue (by decide) path
  rw [parts, List.cons_append, List.cons_append, List.append_assoc, List.singleton_append]
  simp [Word.read, cut]

theorem clusterWord {letters : Bytes} (first : letters.head?.any (· ≠ dash) = true) :
    Word.read (dash :: letters) = .cluster letters := by
  cases letters with
  | nil => cases first
  | cons b more =>
    have other : b ≠ dash := by simpa using first
    simp [Word.read, other]

inductive Reads (syslog : Bool) (word : Bytes) (args : List Bytes) (r : Reading) : Prop where
  | long {name value} (read : Word.read word = .long name value)
      (same : readLong syslog name value args = r) : Reads syslog word args r
  | cluster {letters} (read : Word.read word = .cluster letters)
      (same : readCluster letters args = r) : Reads syslog word args r

theorem clusterReads {syslog : Bool} {count : Nat} {letters : Bytes} {r : Reading}
    (first : letters.head? ≠ some dash) (filled : count ≠ 0 ∨ letters ≠ [])
    (read : readCluster letters args = r) :
    Reads syslog (dash :: (List.replicate count (letter 'v') ++ letters)) args
      { r with asks := List.replicate count .verbose ++ r.asks } := by
  refine .cluster (clusterWord ?_) (by rw [readClusterLetters, read])
  cases count with
  | succ n => rfl
  | zero =>
    cases letters with
    | nil => simp at filled
    | cons b more => simpa using first

theorem writtenReads (syslog : Bool) {spelling : Spelling} (proper : spelling.Proper)
    (known : syslog = true ∨ spelling ≠ .syslog) : ∃ word more, spelling.written = word :: more ∧
      Reads syslog word (more ++ args) ⟨spelling.asks, spelling.waits?, args⟩ := by
  cases spelling with
  | assigned path => exact ⟨_, [], rfl, .long (assignedWord path) rfl⟩
  | separate path =>
    have word : Word.read (Text.Utf8.encode "--config") =
        .long (Text.Utf8.encode "config") none := by decide
    have named : named (Text.Utf8.encode "config") "config" = true := by decide
    refine ⟨_, [path], rfl, .long word ?_⟩
    rw [readLong, if_pos named]
    exact separateValueStands proper.2 args
  | syslog =>
    have word : Word.read (Text.Utf8.encode "--syslog") =
        .long (Text.Utf8.encode "syslog") none := by decide
    obtain rfl := known.resolve_right fun other => other rfl
    exact ⟨_, [], rfl, .long word rfl⟩
  | verbose =>
    have word : Word.read (Text.Utf8.encode "--verbose") =
        .long (Text.Utf8.encode "verbose") none := by decide
    exact ⟨_, [], rfl, .long word (by cases syslog <;> rfl)⟩
  | cluster count path =>
    cases path with
    | none =>
      have read : readCluster [] args = ⟨[], none, args⟩ := rfl
      have letters : Reads syslog _ _ _ := clusterReads args (by simp) (.inl proper) read
      rw [List.append_nil, List.append_nil] at letters
      exact ⟨_, [], rfl, letters⟩
    | some path =>
      have read : readCluster [letter 'c'] (path :: args) = ⟨[], some path, args⟩ :=
        separateValueStands proper.2 args
      have letters : Reads syslog (dash :: (List.replicate count (letter 'v') ++ _)) _ _ :=
        clusterReads (path :: args) (by decide) (.inr (by simp)) read
      rw [List.append_nil] at letters
      exact ⟨_, [path], rfl, letters⟩

theorem readWritten {spelling : Spelling} (proper : spelling.Proper) :
    readVerbCall o waiting (spelling.written ++ args) =
      onward o waiting ⟨spelling.asks, spelling.waits?, args⟩ := by
  obtain ⟨word, more, written, read⟩ := writtenReads args true proper (.inl rfl)
  rw [written, List.cons_append]
  cases read with
  | long read same => rw [readLongWord o waiting _ read, same]
  | cluster read same => rw [readClusterWord o waiting _ read, same]

end Written

theorem acceptVerbose {o : Options} (most : o.verbose ≤ mostVerbose) (n : Nat) :
    o.acceptAll (List.replicate n .verbose) =
      .ok { o with verbose := min (o.verbose + n) mostVerbose } := by
  induction n generalizing o with
  | zero => rw [List.replicate_zero, Options.acceptAll, Nat.add_zero, Nat.min_eq_left most]
  | succ n ih =>
    have raised := ih (o := { o with verbose := min (o.verbose + 1) mostVerbose })
      (Nat.min_le_right _ _)
    have count : min (min (o.verbose + 1) mostVerbose + n) mostVerbose =
      min (o.verbose + (n + 1)) mostVerbose := by omega
    rw [List.replicate_succ, Options.acceptAll, Options.accept]
    simp only [raised, count]

structure Awaits (o : Options) (waiting : Option Bytes) (spellings : List Spelling)
    (final : Options) : Prop where
  proper : ∀ spelling ∈ spellings, spelling.Proper
  named : waiting ≠ some []
  most : o.verbose ≤ mostVerbose
  config : o.config.toList ++ (waiting.toList ++ spellings.filterMap Spelling.path?) =
    final.config.toList
  syslog : o.syslog.toNat + spellings.count .syslog = final.syslog.toNat
  verbose : min (o.verbose + Spelling.total spellings) mostVerbose = final.verbose

section Awaits
variable {o final : Options} {waiting : Option Bytes} {spellings : List Spelling}

theorem onlyOne {first last : Option Bytes} {path : Bytes} {rest : List Bytes}
    (h : first.toList ++ path :: rest = last.toList) : first = none := by
  cases first with
  | none => rfl
  | some other => cases last <;> simp at h

theorem unnamed : (none : Option Bytes) ≠ some [] := by simp

theorem settleAwaits (h : Awaits o waiting spellings final) :
    ∃ o', o.settle waiting = .ok o' ∧ Awaits o' none spellings final := by
  cases waiting with
  | none => exact ⟨o, rfl, h⟩
  | some path =>
    have free : o.config = none := onlyOne h.config
    have named : path ≠ [] := fun empty => h.named (empty ▸ rfl)
    refine ⟨{ o with config := some path }, ?_, { h with named := unnamed, config := ?_ }⟩
    · simp [Options.settle, Options.accept, free, named]
    · simpa [free] using h.config

theorem clusterNamed {count : Nat} {path : Option Bytes}
    (proper : (Spelling.cluster count path).Proper) : path ≠ some [] := by
  rintro rfl
  exact proper.1 rfl

theorem unloggedBefore {first last : Bool} {later : Nat}
    (h : first.toNat + (later + 1) = last.toNat) : first = false := by
  have most := Bool.toNat_le last
  cases first with
  | false => rfl
  | true =>
    rw [Bool.toNat_true] at h
    omega

theorem acceptAwaits {spelling : Spelling} (h : Awaits o none (spelling :: spellings) final) :
    ∃ o', o.acceptAll spelling.asks = .ok o' ∧ Awaits o' spelling.waits? spellings final := by
  obtain ⟨proper, rest⟩ := List.forall_mem_cons.mp h.proper
  have raised : ∀ count total, min (o.verbose + (count + total)) mostVerbose = final.verbose →
      min (min (o.verbose + count) mostVerbose + total) mostVerbose = final.verbose := by omega
  cases spelling with
  | assigned path =>
    have free : o.config = none := onlyOne h.config
    refine ⟨{ o with config := some path }, ?_, rest, unnamed, h.most, ?_, ?_, ?_⟩
    · have named : path ≠ [] := proper
      simp [Spelling.asks, Options.acceptAll, Options.accept, free, named]
    · simpa [free, Spelling.path?, Spelling.waits?] using h.config
    · simpa using h.syslog
    · simpa [Spelling.total, Spelling.count] using h.verbose
  | separate path =>
    refine ⟨o, rfl, rest, fun empty => proper.1 (Option.some.inj empty), h.most, ?_, ?_, ?_⟩
    · exact h.config
    · simpa using h.syslog
    · simpa [Spelling.total, Spelling.count] using h.verbose
  | syslog =>
    have more := h.syslog
    rw [List.count_cons_self] at more
    have unlogged : o.syslog = false := unloggedBefore more
    refine ⟨{ o with syslog := true }, ?_, rest, unnamed, h.most, ?_, ?_, ?_⟩
    · simp [Spelling.asks, Options.acceptAll, Options.accept, unlogged]
    · exact h.config
    · rw [unlogged] at more
      simp only [Bool.toNat_true, Bool.toNat_false] at more ⊢
      omega
    · simpa [Spelling.total, Spelling.count] using h.verbose
  | verbose =>
    refine ⟨_, acceptVerbose h.most 1, rest, unnamed, Nat.min_le_right _ _, ?_, ?_, ?_⟩
    · exact h.config
    · simpa using h.syslog
    · exact raised 1 _ h.verbose
  | cluster count path =>
    refine ⟨_, acceptVerbose h.most count, rest, clusterNamed proper, Nat.min_le_right _ _,
      ?_, ?_, ?_⟩
    · cases path <;> exact h.config
    · simpa using h.syslog
    · exact raised count _ h.verbose

theorem takeAwaits {spelling : Spelling} (h : Awaits o waiting (spelling :: spellings) final)
    (args : List Bytes) : ∃ o', o.take waiting ⟨spelling.asks, spelling.waits?, args⟩ = .ok o' ∧
      Awaits o' spelling.waits? spellings final := by
  obtain ⟨settled, settles, h⟩ := settleAwaits h
  obtain ⟨o', accepted, h⟩ := acceptAwaits h
  exact ⟨o', by simp only [Options.take, settles, accepted], h⟩

theorem awaitsNone (h : Awaits o none [] final) : o = final := by
  have config : o.config = final.config := by simpa using congrArg List.head? h.config
  have syslog : o.syslog = final.syslog := by
    have injective : ∀ a b : Bool, a.toNat = b.toNat → a = b := by decide
    exact injective _ _ h.syslog
  have verbose : o.verbose = final.verbose := by
    have total := h.verbose
    have most := h.most
    simp only [Spelling.total] at total
    omega
  cases o
  cases final
  simp_all

end Awaits
end VmBridge.CommandLine
