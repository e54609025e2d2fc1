import VmBridge.Program
import VmBridge.Proofs.CommandLine.Gathering
import VmBridge.Proofs.CommandLine.Rendering
/-! From the arguments of the binding tool to a request. How many operands there may be is looked
at twice, for each group as it ends and for all of them together; options in front of the operands
and behind them change nothing about the request. -/
namespace VmBridge

namespace Binding.Request
variable {fallback : String} {operands : List String} {request : Request}

def Worded (operands : List String) : Prop :=
  (operands.length = 2 ∨ operands.length = 3) ∧
    (operands.getLast? = some "bind" ∨ operands.getLast? = some "unbind")

def Spelled (fallback : String) (operands : List String) (request : Request) : Prop :=
  operands = [request.deviceId, request.action.word] ∧ request.infId = fallback ∨
    operands = [request.infId, request.deviceId, request.action.word]

theorem spelledMade (h : Spelled fallback operands request) :
    ofOperands fallback operands = .ok request := by
  obtain ⟨rfl, rfl⟩ | rfl := h
  all_goals
    rw [ofOperands, Action.ofWordWord]
    rfl

theorem madeSpelled (h : ofOperands fallback operands = .ok request) :
    Spelled fallback operands request := by
  unfold ofOperands Action.ofWord at h
  repeat' split at h
  all_goals cases h
  · subst_vars
    exact .inl ⟨rfl, rfl⟩
  · subst_vars
    exact .inl ⟨rfl, rfl⟩
  · subst_vars
    exact .inr rfl
  · subst_vars
    exact .inr rfl

theorem ofOperandsRefused {e : Fault} (h : ofOperands fallback operands = .error e) :
    e = .usage usageLine := by
  unfold ofOperands Action.ofWord at h
  repeat' split at h
  all_goals cases h
  all_goals rfl

theorem spelledWorded : (∃ request, Spelled fallback operands request) ↔ Worded operands := by
  have actionWord : ∀ {last : Option String}, last = some "bind" ∨ last = some "unbind" ↔
      ∃ action : Action, last = some action.word := by
    intro last
    constructor
    · rintro (rfl | rfl)
      · exact ⟨.bind, rfl⟩
      · exact ⟨.unbind, rfl⟩
    · rintro ⟨action, rfl⟩
      cases action
      · exact .inl rfl
      · exact .inr rfl
  rw [Worded, actionWord]
  constructor
  · rintro ⟨request, ⟨rfl, _⟩ | rfl⟩
    · exact ⟨.inl rfl, request.action, rfl⟩
    · exact ⟨.inr rfl, request.action, rfl⟩
  · rintro ⟨two | three, action, last⟩
    · obtain ⟨device, word, rfl⟩ := List.length_eq_two.mp two
      obtain rfl : word = action.word := by simpa using last
      exact ⟨⟨fallback, device, action⟩, .inl ⟨rfl, rfl⟩⟩
    · obtain ⟨infId, device, word, rfl⟩ := List.length_eq_three.mp three
      obtain rfl : word = action.word := by simpa using last
      exact ⟨⟨infId, device, action⟩, .inr rfl⟩

end Binding.Request

namespace CommandLine
open Text (Bytes)
open Binding (Request)

def refusal {κ σ : Type} (s : σ) : Ran κ σ Int :=
  ⟨.ok 1, s, [.out (Text.Utf8.encode
    ("Usage: bindbridge [<bridgeId>] <deviceId> <bind|unbind>" ++ "\n"))]⟩

structure Requests (argv : List Bytes) (fallback : String) (operands : List String) : Prop where
  gathered : operands.map Text.Utf8.encode = operandsAmong false argv.tail
  understood : (∃ request, Request.ofOperands fallback operands = .ok request) ↔
    Request.Worded operands
  spelled : ∀ request, Request.ofOperands fallback operands = .ok request →
    Request.Spelled fallback operands request
  usage : ¬ Request.Worded operands →
    Request.ofOperands fallback operands =
        .error (.usage "Usage: bindbridge [<bridgeId>] <deviceId> <bind|unbind>") ∧
      ∀ settings : Settings, settings.bridge.infId = fallback →
        (Program.bindRequest operands settings).run () = refusal ()

theorem understoodRequests {argv : List Bytes} {call : BindCall}
    (h : BindCall.ofArgv argv = .ok call) (fallback : String) :
    Requests argv fallback call.operands := by
  have understood : (∃ request, Request.ofOperands fallback call.operands = .ok request) ↔
      Request.Worded call.operands := by
    rw [← Request.spelledWorded]
    exact exists_congr fun _ => ⟨Request.madeSpelled, Request.spelledMade⟩
  refine ⟨gatheredAll h, understood, fun _ => Request.madeSpelled, ?_⟩
  intro unworded
  cases made : Request.ofOperands fallback call.operands with
  | ok request => exact absurd (understood.mp ⟨request, made⟩) unworded
  | error e =>
    obtain rfl := Request.ofOperandsRefused made
    refine ⟨rfl, fun settings same => ?_⟩
    unfold Program.bindRequest
    rw [same, made]
    rfl

inductive Flag where
  | spelled (spelling : Spelling)
  | joined (count : Nat) (assigned : Bool) (path : Bytes)
  deriving DecidableEq, Repr

namespace Flag

def written : Flag → List Bytes
  | spelled spelling => spelling.written
  | joined count assigned path => [dash :: (List.replicate count (letter 'v') ++
      letter 'c' :: if assigned then equals :: path else path)]

def path? : Flag → Option Bytes
  | spelled spelling => spelling.path?
  | joined _ _ path => some path

def count : Flag → Nat
  | spelled spelling => spelling.count
  | joined count _ _ => count

def countAll : List Flag → Nat
  | [] => 0
  | flag :: flags => flag.count + countAll flags

def Proper : Flag → Prop
  | spelled spelling => spelling.Proper ∧ spelling ≠ .syslog
  | joined _ assigned path => path ≠ [] ∧ (assigned = false → path.head? ≠ some equals)

def asks (flag : Flag) : List Ask :=
  List.replicate flag.count .verbose ++ flag.path?.toList.map .config

end Flag

def Reading.settled (r : Reading) : List Ask := r.asks ++ r.waiting.toList.map .config

theorem attachedPath (assigned : Bool) {path : Bytes} (filled : path ≠ [])
    (unlike : assigned = false → path.head? ≠ some equals) (rest : List Bytes) :
    attachedValue (if assigned then equals :: path else path) rest =
      ⟨[.config path], none, rest⟩ := by
  cases assigned with
  | true => simp [attachedValue]
  | false =>
    cases path with
    | nil => exact absurd rfl filled
    | cons b more =>
      have other : b ≠ equals := by simpa using unlike rfl
      simp [attachedValue, other]

theorem flagReads {flag : Flag} (proper : flag.Proper) (args : List Bytes) :
    ∃ word more r, flag.written = word :: more ∧ Reads false word (more ++ args) r ∧
      r.settled = flag.asks ∧ r.rest = args := by
  cases flag with
  | spelled spelling =>
    obtain ⟨word, more, written, reads⟩ := writtenReads args false proper.1 (.inr proper.2)
    refine ⟨word, more, _, written, reads, ?_, rfl⟩
    cases spelling with
    | assigned | separate | verbose | cluster => simp [Reading.settled, Flag.asks, Flag.count,
        Flag.path?, Spelling.asks, Spelling.waits?, Spelling.count, Spelling.path?]
    | syslog => exact absurd rfl proper.2
  | joined count assigned path =>
    have read : readCluster (letter 'c' :: if assigned then equals :: path else path) args =
        ⟨[.config path], none, args⟩ := attachedPath assigned proper.1 proper.2 args
    exact ⟨_, [], _, rfl, clusterReads args (by simp [show letter 'c' ≠ dash by decide])
      (.inr (by simp)) read, by simp [Reading.settled, Flag.asks, Flag.count, Flag.path?], rfl⟩

namespace Gathered
variable {g g' : Gathered} {args : List Bytes}

theorem askedOption {word : Bytes} {r : Reading} (reads : Reads false word args r) :
    g.read (word :: args) = (g.asked r).bind (·.read r.rest) := by
  cases reads with
  | long read same =>
    subst same
    rw [Gathered.read, read]
    dsimp only
    cases g.asked _ <;> rfl
  | cluster read same =>
    subst same
    rw [Gathered.read, read]
    dsimp only
    cases g.asked _ <;> rfl

theorem askedSettled (closes : g.closed = .ok g') (r : Reading) :
    g.asked r = (g'.options.acceptAll r.settled).map fun o => { g' with options := o } := by
  have one : ∀ o : Options, o.settle r.waiting = o.acceptAll (r.waiting.toList.map .config) := by
    intro o
    cases r.waiting with
    | none => rfl
    | some value =>
      simp only [Options.settle, Option.toList_some, List.map_cons, List.map_nil,
        Options.acceptAll]
      cases o.accept (.config value) <;> rfl
  have taken : g'.options.take none r = g'.options.acceptAll r.asks := rfl
  rw [asked, closes, Reading.settled, Options.acceptAllAppend]
  dsimp only
  rw [taken]
  cases g'.options.acceptAll r.asks with
  | ok o => exact congrArg (Except.map fun o => { g' with options := o }) (one o)
  | error e => rfl

theorem closedNone (ended : g.group = []) : g.closed = .ok g := by rw [closed, if_pos ended]

theorem closedEnded (closes : g.closed = .ok g') : g'.group = [] := by rw [closedWhole closes]

theorem readFlags {flags : List Flag} (proper : ∀ flag ∈ flags, flag.Proper)
    (ended : g.group = []) : g.read (flags.flatMap Flag.written ++ args) =
      (g.options.acceptAll (flags.flatMap Flag.asks)).bind
        fun o => { g with options := o }.read args := by
  induction flags generalizing g with
  | nil => rfl
  | cons flag flags ih =>
    obtain ⟨first, rest⟩ := List.forall_mem_cons.mp proper
    obtain ⟨word, more, r, written, reads, asks, onward⟩ := flagReads first
      (flags.flatMap Flag.written ++ args)
    rw [List.flatMap_cons, List.flatMap_cons, written, List.append_assoc, List.cons_append,
      askedOption reads, askedSettled (closedNone ended), asks, onward, Options.acceptAllAppend]
    cases g.options.acceptAll flag.asks with
    | ok o => exact ih rest ended
    | error e => rfl

theorem readNothing (ended : g.group = []) (filled : g.operands ≠ []) :
    g.read [] = .ok ⟨g.options, g.operands⟩ := by
  simp only [read, finished, closedNone ended, if_neg filled]

theorem readEnded {flags : List Flag} (proper : ∀ flag ∈ flags, flag.Proper)
    (closes : g.closed = .ok g') :
    g.read (flags.flatMap Flag.written) = g'.read (flags.flatMap Flag.written) := by
  have again := closedNone (closedEnded closes)
  cases flags with
  | nil => simp only [List.flatMap_nil, read, finished, closes, again]
  | cons flag flags =>
    obtain ⟨word, more, r, written, reads, _, _⟩ := flagReads (List.forall_mem_cons.mp proper).1
      (flags.flatMap Flag.written)
    rw [List.flatMap_cons, written, List.cons_append, askedOption reads, askedOption reads,
      askedSettled closes, askedSettled again]

theorem readWords {words : List Bytes} (stand : ∀ word ∈ words, standsAsValue word = true) :
    g.read (words ++ args) = match words.mapM Text.Utf8.decode? with
      | some operands => { g with group := g.group ++ operands }.read args
      | none => .error .refused := by
  induction words generalizing g with
  | nil => simp
  | cons word words ih =>
    obtain ⟨first, rest⟩ := List.forall_mem_cons.mp stand
    rw [List.cons_append, read, wordStands first, List.mapM_cons]
    dsimp only [taking]
    cases Text.Utf8.decode? word with
    | none => rfl
    | some operand =>
      dsimp only
      rw [ih rest]
      cases words.mapM Text.Utf8.decode? with
      | none => rfl
      | some operands => simp

end Gathered

section Flags
variable {o : Options} {flags : List Flag} {config : Option Bytes}

theorem acceptPath {path : Option Bytes} {more : List Bytes} {final : Option Bytes}
    (filled : path ≠ some []) (h : o.config.toList ++ (path.toList ++ more) = final.toList) :
    ∃ o' : Options, o.acceptAll (path.toList.map .config) = .ok o' ∧
      o'.config.toList ++ more = final.toList ∧ o'.verbose = o.verbose ∧ o'.syslog = o.syslog := by
  cases path with
  | none => exact ⟨o, rfl, h, rfl, rfl⟩
  | some path =>
    have free : o.config = none := onlyOne h
    have named : path ≠ [] := fun empty => filled (empty ▸ rfl)
    refine ⟨{ o with config := some path }, ?_, ?_, rfl, rfl⟩
    · simp [Options.acceptAll, Options.accept, free, named]
    · simpa [free] using h

theorem flagNamed {flag : Flag} (proper : flag.Proper) : flag.path? ≠ some [] := by
  rintro empty
  cases flag with
  | spelled spelling =>
    cases spelling with
    | assigned path =>
      cases empty
      exact proper.1 rfl
    | separate path =>
      cases empty
      exact proper.1.1 rfl
    | cluster count path =>
      exact clusterNamed proper.1 empty
    | syslog | verbose => cases empty
  | joined count assigned path =>
    cases empty
    exact proper.1 rfl

theorem acceptFlags (proper : ∀ flag ∈ flags, flag.Proper) (most : o.verbose ≤ mostVerbose)
    (h : o.config.toList ++ flags.filterMap Flag.path? = config.toList) :
    o.acceptAll (flags.flatMap Flag.asks) =
      .ok ⟨config, o.syslog, min (o.verbose + Flag.countAll flags) mostVerbose⟩ := by
  induction flags generalizing o with
  | nil =>
    have same : o.config = config := by simpa using congrArg List.head? h
    simp [Options.acceptAll, Flag.countAll, ← same, Nat.min_eq_left most]
  | cons flag flags ih =>
    obtain ⟨first, rest⟩ := List.forall_mem_cons.mp proper
    have parted : o.config.toList ++ (flag.path?.toList ++ flags.filterMap Flag.path?) =
        config.toList := by
      rw [← h, List.filterMap_cons]
      cases flag.path? <;> rfl
    obtain ⟨o', accepted, config, verbose, syslog⟩ := acceptPath
      (o := { o with verbose := min (o.verbose + flag.count) mostVerbose }) (flagNamed first) parted
    rw [List.flatMap_cons, Options.acceptAllAppend, Flag.asks, Options.acceptAllAppend,
      acceptVerbose most]
    simp only [Except.bind, accepted]
    rw [ih rest (by rw [verbose]; exact Nat.min_le_right _ _) config, syslog, verbose, Flag.countAll]
    have total : ∀ n, min (min (o.verbose + flag.count) mostVerbose + n) mostVerbose =
        min (o.verbose + (flag.count + n)) mostVerbose := by omega
    rw [total]

end Flags

structure Configures (flags : List Flag) (config : Option Bytes) : Prop where
  proper : ∀ flag ∈ flags, flag.Proper
  config : flags.filterMap Flag.path? = config.toList

def surrounded (before after : List Flag) (words : List String) : List Bytes :=
  before.flatMap Flag.written ++ (words.map Text.Utf8.encode ++ after.flatMap Flag.written)

section Lines
variable {before after : List Flag} {config : Option Bytes} {words : List String}
variable (program : Bytes)

theorem decodeEncoded (words : List String) :
    (words.map Text.Utf8.encode).mapM Text.Utf8.decode? = some words := by
  induction words with
  | nil => rfl
  | cons word words ih =>
    rw [List.map_cons, List.mapM_cons, Text.Utf8.decodeEncode, ih]
    rfl

theorem decodeAllWritten {args : List Bytes} {words : List String}
    (h : args.mapM Text.Utf8.decode? = some words) : words.map Text.Utf8.encode = args := by
  induction args generalizing words with
  | nil =>
    cases h
    rfl
  | cons arg args ih =>
    rw [List.mapM_cons] at h
    obtain ⟨word, decoded, later⟩ := Option.bind_eq_some_iff.mp h
    obtain ⟨words, rest, last⟩ := Option.bind_eq_some_iff.mp later
    cases last
    rw [List.map_cons, Text.Utf8.decodeWritten decoded, ih rest]

theorem surroundedCall (h : Configures (before ++ after) config)
    (plain : ∀ word ∈ words, Plain word) (few : words.length = 2 ∨ words.length = 3) :
    BindCall.ofArgv (program :: surrounded before after words) =
      .ok ⟨⟨config, false, min (Flag.countAll (before ++ after)) 255⟩, words⟩ := by
  have front : ∀ flag ∈ before, flag.Proper := fun flag mem =>
    h.proper flag (List.mem_append_left after mem)
  have back : ∀ flag ∈ after, flag.Proper := fun flag mem =>
    h.proper flag (List.mem_append_right before mem)
  have stand : ∀ word ∈ words.map Text.Utf8.encode, standsAsValue word = true := by
    simpa using fun word mem => plainStands (plain word mem)
  have accepted : ({} : Options).acceptAll ((before ++ after).flatMap Flag.asks) = _ :=
    acceptFlags h.proper (Nat.zero_le _) h.config
  -- The options behind the words are taken up where those in front of them left off.
  rw [List.flatMap_append, Options.acceptAllAppend] at accepted
  change ({} : Gathered).read (surrounded before after words) = _
  rw [surrounded, Gathered.readFlags front rfl]
  cases taken : ({} : Options).acceptAll (before.flatMap Flag.asks) with
  | error e =>
    change ({} : Options).acceptAll (before.flatMap Flag.asks) = _ at taken
    rw [taken] at accepted
    cases accepted
  | ok o =>
    rw [taken, Except.bind] at accepted
    have filled : words ≠ [] := by
      rintro rfl
      simp at few
    have closes : ({ options := o, group := words } : Gathered).closed = .ok ⟨o, words, []⟩ := by
      have inside : 2 ≤ words.length ∧ words.length ≤ 3 := by omega
      simp [Gathered.closed, filled, inside]
    have finished : Gathered.read ⟨o, words, []⟩ (after.flatMap Flag.written ++ []) = _ :=
      Gathered.readFlags back rfl
    simp only [Except.bind, Gathered.readWords stand, decodeEncoded]
    rw [List.nil_append, Gathered.readEnded back closes]
    rw [List.append_nil] at finished
    rw [finished, accepted, Except.bind, Gathered.readNothing rfl filled, Nat.zero_add]
    rfl

theorem wordsRefused {args : List Bytes} (stand : ∀ arg ∈ args, standsAsValue arg = true)
    (count : args.length < 2 ∨ 3 < args.length) :
    BindCall.ofArgv (program :: args) = .error .refused := by
  change ({} : Gathered).read args = _
  rw [← List.append_nil args, Gathered.readWords stand]
  cases decoded : args.mapM Text.Utf8.decode? with
  | none => rfl
  | some operands =>
    have same : operands.length = args.length := by
      rw [← decodeAllWritten decoded, List.length_map]
    dsimp only
    rw [Gathered.read, Gathered.finished, Gathered.closed]
    by_cases empty : operands = []
    · simp [empty]
    · simp [empty, same, show ¬ (2 ≤ args.length ∧ args.length ≤ 3) by omega]

end Lines

/-- A line that is understood gives every operand it holds to the request, or ends as a refused line
does. Options around two or three words change nothing about them; fewer words, or more, are
refused. -/
theorem operandsRequest {κ σ : Type} (s : σ) (fallback : String) :
    (∀ argv call, BindCall.ofArgv argv = .ok call → Requests argv fallback call.operands) ∧
    (∀ program before after config (bridge : Option String) device word,
      Configures (before ++ after) config → (∀ infId ∈ bridge, Plain infId) → Plain device →
      Plain word →
      let words := bridge.toList ++ [device, word]
      let argv := program :: surrounded before after words
      let options := ⟨config, false, min (Flag.countAll (before ++ after)) 255⟩
      (reading .binding argv (BindCall.ofArgv argv) : Act κ σ (Except Int BindCall)).run s =
          ⟨.ok (.ok ⟨options, words⟩), s, []⟩ ∧
        ∀ action : Binding.Action, word = action.word →
          Request.ofOperands fallback words = .ok ⟨bridge.getD fallback, device, action⟩) ∧
    ∀ program args, (∀ arg ∈ args, standsAsValue arg = true) → args.length < 2 ∨ 3 < args.length →
      let argv := program :: args
      BindCall.ofArgv argv = .error .refused ∧
        (reading .binding argv (BindCall.ofArgv argv) : Act κ σ (Except Int BindCall)).run s =
          ⟨.ok (.error 1), s, (refusal s : Ran κ σ Int).trace⟩ := by
  refine ⟨fun argv call h => understoodRequests h fallback, ?_, ?_⟩
  · intro program before after config bridge device word configures named plain worded words argv
      options
    have few : words.length = 2 ∨ words.length = 3 := by
      cases bridge
      · exact .inl rfl
      · exact .inr rfl
    have plainly : ∀ word ∈ words, Plain word := by
      intro other mem
      simp only [words, List.mem_append, Option.mem_toList, List.mem_cons, List.not_mem_nil,
        or_false] at mem
      obtain bridge | rfl | rfl := mem
      · exact named other bridge
      · exact plain
      · exact worded
    constructor
    · rw [show BindCall.ofArgv argv = _ from surroundedCall program configures plainly few]
      rfl
    · rintro action rfl
      apply Request.spelledMade
      cases bridge with
      | none => exact .inl ⟨rfl, rfl⟩
      | some infId => exact .inr rfl
  · intro program args stand count argv
    have refused : BindCall.ofArgv argv = .error .refused := wordsRefused program stand count
    refine ⟨refused, ?_⟩
    rw [refused]
    rfl

theorem surroundedBridgeRead :
    let read := fun argv : List Bytes =>
      (reading .binding argv (BindCall.ofArgv argv) : Act Unit Unit (Except Int BindCall)).run ()
    let whole := ["bindbridge", "-vc=f", "br", "e", "bind", "--verbose"]
    let parted := ["bindbridge", "e", "bind", "-v", "f", "unbind"]
    let short := ["bindbridge", "bind"]
    read (whole.map Text.Utf8.encode) =
        ⟨.ok (.ok ⟨⟨some [0x66], false, 2⟩, ["br", "e", "bind"]⟩), (), []⟩ ∧
      Request.ofOperands "ms_bridge" ["br", "e", "bind"] = .ok ⟨"br", "e", .bind⟩ ∧
      BindCall.ofArgv (parted.map Text.Utf8.encode) =
        .ok ⟨⟨none, false, 1⟩, ["e", "bind", "f", "unbind"]⟩ ∧
      (Program.bindRequest ["e", "bind", "f", "unbind"] {}).run () = refusal () ∧
      (read (short.map Text.Utf8.encode)).result = .ok (.error 1) := by
  intro read whole parted short
  have all := operandsRequest (κ := Unit) () "ms_bridge"
  have configures : Configures ([.joined 1 true [0x66]] ++ [.spelled .verbose]) (some [0x66]) :=
    ⟨by simp [Flag.Proper, Spelling.Proper], rfl⟩
  have around := all.2.1 (Text.Utf8.encode "bindbridge") _ _ _ (some "br") "e" "bind" configures
    (by simp [Plain]) (by simp [Plain]) (by simp [Plain])
  have line : whole.map Text.Utf8.encode = Text.Utf8.encode "bindbridge" ::
      surrounded [.joined 1 true [0x66]] [.spelled .verbose] ["br", "e", "bind"] := by decide
  have groups : BindCall.ofArgv (parted.map Text.Utf8.encode) =
      .ok ⟨⟨none, false, 1⟩, ["e", "bind", "f", "unbind"]⟩ := by decide +kernel
  have unworded : ¬ Request.Worded ["e", "bind", "f", "unbind"] := by simp [Request.Worded]
  have alone := all.2.2 (Text.Utf8.encode "bindbridge") [Text.Utf8.encode "bind"]
    (by decide) (.inl (by decide))
  refine ⟨?_, around.2 .bind rfl, groups, ((all.1 _ _ groups).usage unworded).2 {} rfl, ?_⟩
  · rw [line]
    exact around.1
  · exact congrArg Ran.result alone.2

end CommandLine
end VmBridge
