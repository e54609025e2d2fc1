import Mathlib.Data.List.Basic
import VmBridge.CommandLine.Help
import VmBridge.Proofs.CommandLine.Operands
import VmBridge.Proofs.CommandLine.Spelling
/-! What a command line reads as that was written out for a verb. The options stand in front of
the verb; behind it `--` keeps the operands from being read as anything else. -/
namespace VmBridge

namespace Verb

def Kind.arities : Kind → List Nat
  | ifUp | ifDown | deleteTap => [1]
  | ifAddress | addToBridge | removeFromBridge => [2]
  | makeTap => [2, 3]

theorem Kind.aritiesMost (kind : Kind) : ∀ n ∈ kind.arities, n ≤ kind.most := by
  cases kind <;> decide

theorem operandsArity (verb : Verb) : verb.operands.length ∈ verb.kind.arities := by
  cases verb with
  | makeTap tap user group => cases group <;> simp [operands, kind, Kind.arities]
  | _ => exact List.mem_singleton_self _

theorem fillArity {kind : Kind} {operands : List String} :
    (∃ verb, kind.fill? operands = some verb) ↔ operands.length ∈ kind.arities := by
  constructor
  · rintro ⟨verb, filled⟩
    obtain ⟨rfl, rfl⟩ := CommandLine.fillOperands filled
    exact operandsArity verb
  · intro length
    cases kind with
    | ifUp | ifDown | deleteTap =>
      obtain ⟨first, rfl⟩ := List.length_eq_one_iff.mp (List.mem_singleton.mp length)
      exact ⟨_, rfl⟩
    | ifAddress | addToBridge | removeFromBridge =>
      obtain ⟨first, second, rfl⟩ := List.length_eq_two.mp (List.mem_singleton.mp length)
      exact ⟨_, rfl⟩
    | makeTap =>
      simp only [Kind.arities, List.mem_cons, List.not_mem_nil, or_false] at length
      rcases length with two | three
      · obtain ⟨tap, user, rfl⟩ := List.length_eq_two.mp two
        exact ⟨_, rfl⟩
      · obtain ⟨tap, user, group, rfl⟩ := List.length_eq_three.mp three
        exact ⟨_, rfl⟩

def Understood (words : List String) : Prop :=
  ∃ (kind : Kind) (operands : List String), words = kind.word :: operands ∧
    operands.length ∈ kind.arities

theorem ofWordsUnderstood {words : List String} :
    (∃ verb, ofWords? words = some verb) ↔ Understood words := by
  constructor
  · rintro ⟨verb, found⟩
    cases words with
    | nil => cases found
    | cons word operands =>
      obtain ⟨kind, known, filled⟩ := Option.bind_eq_some_iff.mp found
      have same : kind.word = word := by simpa using List.find?_some known
      exact ⟨kind, operands, by rw [same], fillArity.mp ⟨verb, filled⟩⟩
  · rintro ⟨kind, operands, rfl, length⟩
    obtain ⟨verb, filled⟩ := fillArity.mpr length
    exact ⟨verb, by rw [ofWords?, Kind.ofWordWord, Option.bind_some, filled]⟩

theorem ofWordsWritten {words : List String} {verb : Verb} (found : ofWords? words = some verb) :
    verb.words = words := by
  cases words with
  | nil => cases found
  | cons word operands =>
    obtain ⟨kind, known, filled⟩ := Option.bind_eq_some_iff.mp found
    obtain ⟨rfl, rfl⟩ := CommandLine.fillOperands filled
    have same : verb.kind.word = word := by simpa using List.find?_some known
    rw [Verb.words, same]

end Verb

namespace CommandLine
open Text (Bytes)

theorem kindWord (kind : Verb.Kind) :
    Word.read (Text.Utf8.encode kind.word) = .plain (Text.Utf8.encode kind.word) := by
  cases kind <;> decide

theorem kindEncoded (word : String) :
    kindOf? (Text.Utf8.encode word) = Verb.Kind.ofWord? word := by
  rw [kindOf?, Text.Utf8.decodeEncode, Option.bind_some]

theorem readRendered {o final : Options} {waiting : Option Bytes} {spellings : List Spelling}
    {verb : Verb} {args : List Bytes} (read : readVerb verb.kind args = .ok verb)
    (h : Awaits o waiting spellings final) :
    readVerbCall o waiting
      (spellings.flatMap Spelling.written ++ Text.Utf8.encode verb.kind.word :: args) =
        .ok ⟨final, verb⟩ := by
  induction spellings generalizing o waiting with
  | nil =>
    obtain ⟨settled, settles, h⟩ := settleAwaits h
    cases awaitsNone h
    rw [List.flatMap_nil, List.nil_append, readVerbCall, kindWord]
    simp only [kindEncoded, Verb.Kind.ofWordWord, callOf, read, settles]
    rfl
  | cons spelling spellings ih =>
    obtain ⟨o', taken, later⟩ := takeAwaits h
      (spellings.flatMap Spelling.written ++ Text.Utf8.encode verb.kind.word :: args)
    rw [List.flatMap_cons, List.append_assoc,
      readWritten _ _ _ (h.proper spelling List.mem_cons_self), onward, taken]
    exact ih later

section Operands
variable {kind : Verb.Kind} {taken operands : List String}

theorem takeOperandEncoded (room : taken.length < kind.most) (operand : String) :
    takeOperand kind taken (Text.Utf8.encode operand) = .ok (taken ++ [operand]) := by
  rw [takeOperand, if_neg (Nat.not_le.mpr room), Text.Utf8.decodeEncode]

theorem readPlainlyEncoded (room : taken.length + operands.length ≤ kind.most) :
    readPlainly kind taken (operands.map Text.Utf8.encode) = .ok (taken ++ operands) := by
  induction operands generalizing taken with
  | nil => rw [List.map_nil, readPlainly, List.append_nil]
  | cons operand operands ih =>
    rw [List.length_cons] at room
    have longer : (taken ++ [operand]).length = taken.length + 1 := List.length_append
    rw [List.map_cons, readPlainly, takeOperandEncoded (by omega)]
    dsimp only
    rw [ih (by omega), List.append_assoc, List.singleton_append]

theorem wordStands {bytes : Bytes} (stands : standsAsValue bytes = true) :
    Word.read bytes = .plain bytes := by
  match bytes with
  | [] => rfl
  | [b] => rfl
  | a :: b :: rest =>
    have plain : a ≠ dash := by simpa [standsAsValue] using stands
    exact Word.readOfHead plain

theorem readOperandsEncoded (room : taken.length ≤ kind.most)
    (stand : ∀ operand ∈ operands, standsAsValue (Text.Utf8.encode operand) = true) :
    readOperands kind taken (operands.map Text.Utf8.encode) =
      if taken.length + operands.length ≤ kind.most then .ok (taken ++ operands)
      else .error .refused := by
  induction operands generalizing taken with
  | nil => simp [readOperands, room]
  | cons operand operands ih =>
    obtain ⟨first, rest⟩ := List.forall_mem_cons.mp stand
    rw [List.map_cons, readOperands, wordStands first]
    dsimp only
    by_cases full : kind.most ≤ taken.length
    · rw [takeOperand, if_pos full, List.length_cons, if_neg (by omega)]
    · have longer : (taken ++ [operand]).length = taken.length + 1 := List.length_append
      rw [takeOperandEncoded (by omega)]
      dsimp only
      rw [ih (by omega) rest, longer, List.append_assoc, List.singleton_append, List.length_cons,
        Nat.add_assoc, Nat.add_comm 1]

theorem readVerbEscaped (verb : Verb) :
    readVerb verb.kind ([dash, dash] :: verb.operands.map Text.Utf8.encode) = .ok verb := by
  have room := verb.kind.aritiesMost _ (Verb.operandsArity verb)
  have read : readPlainly verb.kind [] (verb.operands.map Text.Utf8.encode) = .ok verb.operands :=
    readPlainlyEncoded (by simpa using room)
  rw [readVerb, readOperands, Word.readEscape]
  simp only [read, Verb.operandsFill]

theorem readVerbEncoded (kind : Verb.Kind)
    (stand : ∀ operand ∈ operands, standsAsValue (Text.Utf8.encode operand) = true) :
    readVerb kind (operands.map Text.Utf8.encode) =
      match kind.fill? operands with
      | some verb => .ok verb
      | none => .error .refused := by
  rw [readVerb, readOperandsEncoded (Nat.zero_le _) stand, List.length_nil, Nat.zero_add,
    List.nil_append]
  cases filled : kind.fill? operands with
  | some verb =>
    have room := kind.aritiesMost _ (Verb.fillArity.mp ⟨verb, filled⟩)
    simp only [if_pos room, filled]
  | none =>
    by_cases room : operands.length ≤ kind.most
    · simp only [if_pos room, filled]
    · simp only [if_neg room]

end Operands

def Plain (word : String) : Prop := word.toList.head? ≠ some '-' ∨ word = "-"

theorem encodedDash {word : String} (h : (Text.Utf8.encode word).head? = some dash) :
    word.toList.head? = some '-' := by
  unfold Text.Utf8.encode at h
  cases chars : word.toList with
  | nil =>
    rw [chars] at h
    cases h
  | cons c cs =>
    obtain ⟨b, more, written, reads⟩ := Text.Utf8.stepReads c
    rw [chars, List.flatMap_cons, written, List.cons_append, List.head?_cons] at h
    have first := reads []
    rw [Option.some.inj h, Text.Utf8.stepOne (by decide)] at first
    simp only [Prod.mk.injEq, Option.some.injEq] at first
    rw [List.head?_cons, ← first.1]
    rfl

theorem plainStands {word : String} (plain : Plain word) :
    standsAsValue (Text.Utf8.encode word) = true := by
  rcases plain with other | rfl
  · have unlike : (Text.Utf8.encode word).head? ≠ some dash := fun same => other (encodedDash same)
    simp [standsAsValue, unlike]
  · decide

structure Renders (spellings : List Spelling) (config : Option Bytes) (syslog : Bool)
    (verbose : Nat) : Prop where
  proper : ∀ spelling ∈ spellings, spelling.Proper
  config : spellings.filterMap Spelling.path? = config.toList
  syslog : spellings.count .syslog = syslog.toNat
  verbose : Spelling.total spellings = verbose

def rendered (spellings : List Spelling) (verb : Verb) (escaped : Bool) : List Bytes :=
  spellings.flatMap Spelling.written ++ Text.Utf8.encode verb.kind.word ::
    ((if escaped then [[dash, dash]] else []) ++ verb.operands.map Text.Utf8.encode)

theorem renderedCall {spellings : List Spelling} {config : Option Bytes} {syslog escaped : Bool}
    {verbose : Nat} {verb : Verb} (program : Bytes) (h : Renders spellings config syslog verbose)
    (plain : escaped = true ∨ ∀ operand ∈ verb.operands, Plain operand) :
    VerbCall.ofArgv (program :: rendered spellings verb escaped) =
      .ok ⟨⟨config, syslog, min verbose 255⟩, verb⟩ := by
  have read : readVerb verb.kind ((if escaped then [[dash, dash]] else []) ++
      verb.operands.map Text.Utf8.encode) = .ok verb := by
    cases escaped with
    | true => exact readVerbEscaped verb
    | false =>
      have stand := fun operand mem => plainStands (plain.resolve_left nofun operand mem)
      have encoded := readVerbEncoded verb.kind stand
      rwa [Verb.operandsFill] at encoded
  exact readRendered read {
    proper := h.proper
    named := unnamed
    most := Nat.zero_le _
    config := h.config
    syslog := (Nat.zero_add _).trans h.syslog
    verbose := by rw [h.verbose, Nat.zero_add]; rfl }

theorem plainCall {words : List String} (program : Bytes) (plain : ∀ word ∈ words, Plain word) :
    VerbCall.ofArgv (program :: words.map Text.Utf8.encode) =
      match Verb.ofWords? words with
      | some verb => .ok ⟨{}, verb⟩
      | none => .error (if words = [] then .bare else .refused) := by
  cases words with
  | nil =>
    change readVerbCall {} none [] = _
    rw [readVerbCall]
    rfl
  | cons word operands =>
    obtain ⟨first, rest⟩ := List.forall_mem_cons.mp plain
    change readVerbCall {} none (Text.Utf8.encode word :: operands.map Text.Utf8.encode) = _
    rw [readVerbCall, wordStands (plainStands first), if_neg (List.cons_ne_nil _ _)]
    dsimp only
    rw [kindEncoded, Verb.ofWords?]
    cases Verb.Kind.ofWord? word with
    | none => rfl
    | some kind =>
      dsimp only
      rw [callOf, readVerbEncoded kind fun operand mem => plainStands (rest operand mem),
        Option.bind_some]
      cases kind.fill? operands <;> rfl

structure ReadsPlain {κ σ : Type} (words : List String) (s : σ)
    (ran : Ran κ σ (Except Int VerbCall)) : Prop where
  understood : (∃ call, ran.result = .ok (.ok call)) ↔ Verb.Understood words
  call : ∀ call, ran.result = .ok (.ok call) →
    call.options = {} ∧ call.verb.words = words ∧ ran.trace = []
  usage : ¬ Verb.Understood words → ran.result = .ok (.error 1) ∧
    Trace.stdout ran.trace = Text.Utf8.encode (
      "Usage: qemu-bridge ifup <interface> | ifdown <interface> | ifaddress <interface> <address> | " ++
      "mktap <tapname> <user> [group] | deltap <tapname> | addtobr <br> <tap> | delfrombr <br> <tap>" ++
      "\n") ∧
    Trace.stderr ran.trace = [] ∧ Trace.calls ran.trace = []
  state : ran.state = s

theorem plainReads {κ σ : Type} {words : List String} (program : Bytes) (s : σ)
    (plain : ∀ word ∈ words, Plain word) :
    let argv := program :: words.map Text.Utf8.encode
    ReadsPlain words s
      ((reading .verbs argv (VerbCall.ofArgv argv) : Act κ σ (Except Int VerbCall)).run s) := by
  intro argv
  have read : VerbCall.ofArgv argv = _ := plainCall program plain
  have known : _ ↔ Verb.Understood words := Verb.ofWordsUnderstood
  rw [read]
  cases found : Verb.ofWords? words with
  | some verb =>
    have understood := known.mp ⟨verb, found⟩
    exact {
      understood := ⟨fun _ => understood, fun _ => ⟨_, rfl⟩⟩
      call := fun call same => by
        cases same
        exact ⟨rfl, Verb.ofWordsWritten found, rfl⟩
      usage := fun lost => absurd understood lost
      state := rfl }
  | none =>
    have lost : ¬ Verb.Understood words := fun understood => by
      obtain ⟨verb, filled⟩ := known.mpr understood
      rw [found] at filled
      cases filled
    dsimp only
    split
    all_goals exact {
      understood := ⟨fun ⟨_, same⟩ => (by cases same), fun understood => absurd understood lost⟩
      call := fun _ same => by cases same
      usage := fun _ => ⟨rfl, List.append_nil _, rfl, rfl⟩
      state := rfl }

/-- Written out with its options in front of it, a verb reads as that verb with those options.
Words that do not look like options are understood exactly as a verb with its operands. -/
theorem readingUndoesRendering {κ σ : Type} (program : Bytes) (s : σ) :
    (∀ spellings config syslog verbose verb escaped, Renders spellings config syslog verbose →
      (escaped = true ∨ ∀ operand ∈ verb.operands, Plain operand) →
      let argv := program :: rendered spellings verb escaped
      (reading .verbs argv (VerbCall.ofArgv argv) : Act κ σ (Except Int VerbCall)).run s =
        ⟨.ok (.ok ⟨⟨config, syslog, min verbose 255⟩, verb⟩), s, []⟩) ∧
    ∀ words : List String, (∀ word ∈ words, Plain word) →
      let argv := program :: words.map Text.Utf8.encode
      ReadsPlain words s
        ((reading .verbs argv (VerbCall.ofArgv argv) : Act κ σ (Except Int VerbCall)).run s) := by
  refine ⟨fun spellings config syslog verbose verb escaped renders plain => ?_,
    fun words plain => plainReads program s plain⟩
  intro argv
  rw [show VerbCall.ofArgv argv = _ from renderedCall program renders plain]
  rfl

theorem escapedTapRead :
    let read := fun argv : List Bytes =>
      (reading .verbs argv (VerbCall.ofArgv argv) : Act Unit Unit (Except Int VerbCall)).run ()
    let escaped := ["qemu-bridge", "-vv", "--syslog", "-vc", "-", "mktap", "--", "--", ""]
    let short := ["qemu-bridge", "mktap", "tap0"]
    read (escaped.map Text.Utf8.encode) =
        ⟨.ok (.ok ⟨⟨some [dash], true, 3⟩, .makeTap "--" "" none⟩), (), []⟩ ∧
      (read (short.map Text.Utf8.encode)).result = .ok (.error 1) := by
  intro read escaped short
  have both := readingUndoesRendering (κ := Unit) (Text.Utf8.encode "qemu-bridge") ()
  constructor
  · have line : escaped.map Text.Utf8.encode = Text.Utf8.encode "qemu-bridge" ::
        rendered [.cluster 2 none, .syslog, .cluster 1 (some [dash])]
          (.makeTap "--" "" none) true := by decide
    have renders : Renders [.cluster 2 none, .syslog, .cluster 1 (some [dash])] (some [dash]) true
        3 := ⟨by simp [Spelling.Proper, standsAsValue], rfl, rfl, rfl⟩
    rw [line]
    exact both.1 _ _ _ _ _ true renders (Or.inl rfl)
  · have lost : ¬ Verb.Understood ["mktap", "tap0"] := by
      have unfilled : Verb.ofWords? ["mktap", "tap0"] = none := by decide
      simp [← Verb.ofWordsUnderstood, unfilled]
    exact ((both.2 ["mktap", "tap0"] (by simp [Plain])).usage lost).1

end CommandLine
end VmBridge
