import Mathlib
import VmBridge.Proofs.Settings.Entry
import VmBridge.Settings.Load
/-! Settings as their defaults under what a document gives. Entries that fit are taken up in any
order to the same effect; one that does not spoils the document wherever it stands. -/
namespace VmBridge.Settings
open Toml (Value Entries)

def Overlaid {β : Type} (form : β → Value) (given : Option Value) (default actual : β) : Prop :=
  given = none ∧ actual = default ∨ given = some (form actual)

structure ToolsOver (given : String → Option Value) (t : Tools) : Prop where
  ip : Overlaid .string (given "ip") "ip" t.ip
  ifconfig : Overlaid .string (given "ifconfig") "ifconfig" t.ifconfig
  brctl : Overlaid .string (given "brctl") "brctl" t.brctl
  tunDevice : Overlaid .string (given "tun_device") "/dev/net/tun" t.tunDevice

structure BridgeOver (given : String → Option Value) (b : BridgeSettings) : Prop where
  infId : Overlaid .string (given "inf_id") "ms_bridge" b.infId
  guard : Overlaid (.string ∘ guardName) (given "ics_guard") .bind b.guard
  lockTimeout : Overlaid (.integer ·.toNat) (given "lock_timeout_ms") 5000 b.lockTimeout

def nested (es : Entries) (table key : String) : Option Value :=
  match es.get? table with
  | some (.table _ inner) => Entries.get? inner key
  | _ => none

structure Overlays (es : Entries) (s : Settings) : Prop where
  level : Overlaid (.string ∘ levelName) (es.get? "log_level") .warn s.logLevel
  tools : ToolsOver (nested es "tools") s.tools
  bridge : BridgeOver (nested es "bridge") s.bridge

section Overlays
variable {es : Entries}

theorem overlaidPart {α β : Type} {fields : List (Field α)} {key : String} (part : α → β)
    {form : β → Value} {a a' : α} (once : es.keys.Nodup) (set : setEntries fields a es = .ok a')
    (h : Part fields key part fun v b => (key, v) ∈ es → v = form b) :
    Overlaid form (es.get? key) (part a) (part a') := by
  have laid := setEntriesPart h once set
  cases given : es.get? key with
  | none =>
    rw [given] at laid
    exact .inl ⟨rfl, laid⟩
  | some v =>
    rw [given] at laid
    exact .inr (congrArg some (laid (Entries.getMem given)))

theorem toolsOver {t : Tools} (once : es.keys.Nodup)
    (set : setEntries toolFields {} es = .ok t) : ToolsOver es.get? t where
  ip := overlaidPart Tools.ip once set ⟨fun one => by
    cases toolSet one with
    | ip => exact .inl ⟨rfl, fun _ => rfl⟩
    | ifconfig | brctl | tunDevice => exact .inr ⟨by decide, rfl⟩⟩
  ifconfig := overlaidPart Tools.ifconfig once set ⟨fun one => by
    cases toolSet one with
    | ifconfig => exact .inl ⟨rfl, fun _ => rfl⟩
    | ip | brctl | tunDevice => exact .inr ⟨by decide, rfl⟩⟩
  brctl := overlaidPart Tools.brctl once set ⟨fun one => by
    cases toolSet one with
    | brctl => exact .inl ⟨rfl, fun _ => rfl⟩
    | ip | ifconfig | tunDevice => exact .inr ⟨by decide, rfl⟩⟩
  tunDevice := overlaidPart Tools.tunDevice once set ⟨fun one => by
    cases toolSet one with
    | tunDevice => exact .inl ⟨rfl, fun _ => rfl⟩
    | ip | ifconfig | brctl => exact .inr ⟨by decide, rfl⟩⟩

theorem guardFits {v : Value} {p : Sharing.Policy} (fits : BridgeFits ("ics_guard", v))
    (read : choice guardChoices v = .ok p) : v = .string (guardName p) := by
  generalize key : "ics_guard" = k at fits
  cases fits with
  | guard p' => rw [guardNamed read]
  | infId | lockTimeout => exact absurd key (by decide)

theorem lockTimeoutFits {v : Value} {n : UInt32} (fits : BridgeFits ("lock_timeout_ms", v))
    (read : word32 v = .ok n) : v = .integer n.toNat := by
  generalize key : "lock_timeout_ms" = k at fits
  cases fits with
  | lockTimeout n' =>
    rw [wordRead] at read
    cases read
    rfl
  | infId | guard => exact absurd key (by decide)

theorem bridgeOver {b : BridgeSettings} (once : es.keys.Nodup) (fits : ∀ e ∈ es, BridgeFits e)
    (set : setEntries bridgeFields {} es = .ok b) : BridgeOver es.get? b where
  infId := overlaidPart BridgeSettings.infId once set ⟨fun one => by
    cases bridgeSet one with
    | infId => exact .inl ⟨rfl, fun _ => rfl⟩
    | guard | lockTimeout => exact .inr ⟨by decide, rfl⟩⟩
  guard := overlaidPart BridgeSettings.guard once set ⟨fun one => by
    cases bridgeSet one with
    | guard read => exact .inl ⟨rfl, fun mem => guardFits (fits _ mem) read⟩
    | infId | lockTimeout => exact .inr ⟨by decide, rfl⟩⟩
  lockTimeout := overlaidPart BridgeSettings.lockTimeout once set ⟨fun one => by
    cases bridgeSet one with
    | lockTimeout read => exact .inl ⟨rfl, fun mem => lockTimeoutFits (fits _ mem) read⟩
    | infId | guard => exact .inr ⟨by decide, rfl⟩⟩

theorem levelFits {v : Value} {l : Log.Level} (fits : TopFits ("log_level", v))
    (read : choice levelChoices v = .ok l) : v = .string (levelName l) := by
  generalize key : "log_level" = k at fits
  cases fits with
  | level l' => rw [levelNamed read]
  | tools | bridge => exact absurd key (by decide)

theorem tableFits {key : String} {v : Value} (fits : TopFits (key, v)) (other : key ≠ "log_level") :
    ∃ standing inner, v = .table standing inner := by
  cases fits with
  | level => exact absurd rfl other
  | tools | bridge => exact ⟨_, _, rfl⟩

theorem bridgeFits {standing : Toml.Standing} {inner : Entries}
    (fits : TopFits ("bridge", .table standing inner)) : ∀ e ∈ inner, BridgeFits e := by
  generalize key : "bridge" = k at fits
  cases fits with
  | bridge each => exact each
  | tools => exact absurd key (by decide)

theorem nestedNone {table : String} (absent : es.get? table = none) :
    nested es table = fun _ => none := by
  funext key
  rw [nested, absent]

theorem nestedSome {table : String} {standing : Toml.Standing} {inner : Entries}
    (given : es.get? table = some (.table standing inner)) : nested es table = inner.get? := by
  funext key
  rw [nested, given]

section Top
variable {s : Settings} (keyed : es.Keyed) (fits : ∀ e ∈ es, TopFits e)
  (set : setEntries fields {} es = .ok s)
include keyed fits set

theorem nestedOver {β : Type} {inside : List (Field β)} {key : String} {part : Settings → β}
    {Over : (String → Option Value) → β → Prop} (wanted : String) (tabular : key ≠ "log_level")
    (h : Part fields key part fun v b => record inside wanted (part {}) v = .ok b)
    (silent : Over (fun _ => none) (part {}))
    (told : ∀ {standing inner b}, (key, .table standing inner) ∈ es → inner.keys.Nodup →
      setEntries inside (part {}) inner = .ok b → Over inner.get? b) :
    Over (nested es key) (part s) := by
  have laid := setEntriesPart h keyed.once set
  cases given : es.get? key with
  | none =>
    rw [given] at laid
    have same : part s = part {} := laid
    rw [nestedNone given, same]
    exact silent
  | some v =>
    rw [given] at laid
    have mem := Entries.getMem given
    obtain ⟨standing, inner, rfl⟩ := tableFits (fits _ mem) tabular
    rw [nestedSome given]
    exact told mem (Entries.ofTable (Entries.getKeyed keyed given)).once laid

theorem toolsNested : ToolsOver (nested es "tools") s.tools := by
  refine nestedOver keyed fits set "struct ToolsConfig" (by decide) ⟨fun one => ?_⟩ ?_
    fun _ once => toolsOver once
  · cases topSet one with
    | tools read => exact .inl ⟨rfl, read⟩
    | level | bridge => exact .inr ⟨by decide, rfl⟩
  · exact ⟨.inl ⟨rfl, rfl⟩, .inl ⟨rfl, rfl⟩, .inl ⟨rfl, rfl⟩, .inl ⟨rfl, rfl⟩⟩

theorem bridgeNested : BridgeOver (nested es "bridge") s.bridge := by
  refine nestedOver keyed fits set "struct BridgeConfig" (by decide) ⟨fun one => ?_⟩ ?_
    fun mem once => bridgeOver once (bridgeFits (fits _ mem))
  · cases topSet one with
    | bridge read => exact .inl ⟨rfl, read⟩
    | level | tools => exact .inr ⟨by decide, rfl⟩
  · exact ⟨.inl ⟨rfl, rfl⟩, .inl ⟨rfl, rfl⟩, .inl ⟨rfl, rfl⟩⟩

theorem overlays : Overlays es s where
  level := overlaidPart Settings.logLevel keyed.once set ⟨fun one => by
    cases topSet one with
    | level read => exact .inl ⟨rfl, fun mem => levelFits (fits _ mem) read⟩
    | tools | bridge => exact .inr ⟨by decide, rfl⟩⟩
  tools := toolsNested keyed fits set
  bridge := bridgeNested keyed fits set

end Top

theorem fittingOverlays (keyed : es.Keyed) (fits : ∀ e ∈ es, TopFits e) :
    ∃ s, ofEntries es = .ok s ∧ Overlays es s := by
  obtain ⟨s, set⟩ := setEntriesTaken (fun e mem => topTaken (fits e mem)) {}
  exact ⟨s, set, overlays keyed fits set⟩

end Overlays

section Order

theorem overlaidOnce {β : Type} {form : β → Value} {given : Option Value} {default a b : β}
    (injective : ∀ {a b}, form a = form b → a = b) (first : Overlaid form given default a)
    (second : Overlaid form given default b) : a = b := by
  rcases first with ⟨absent, rfl⟩ | present
  · rcases second with ⟨_, rfl⟩ | present
    · rfl
    · rw [absent] at present
      cases present
  · rcases second with ⟨absent, _⟩ | again
    · rw [absent] at present
      cases present
    · rw [present] at again
      exact injective (Option.some.inj again)

theorem stringInjective {a b : String} (h : Value.string a = .string b) : a = b := by
  cases h
  rfl

theorem wordInjective {a b : UInt32} (h : Value.integer a.toNat = .integer b.toNat) : a = b := by
  have same : (a.toNat : Int) = b.toNat := by simpa using h
  exact UInt32.toNat_inj.mp (by omega)

theorem levelInjective {a b : Log.Level}
    (h : Value.string (levelName a) = .string (levelName b)) : a = b := by
  have read := levelChosen a
  rw [h, levelChosen] at read
  cases read
  rfl

theorem guardInjective {a b : Sharing.Policy}
    (h : Value.string (guardName a) = .string (guardName b)) : a = b := by
  have read := guardChosen a
  rw [h, guardChosen] at read
  cases read
  rfl

theorem overlaysOnce {es : Entries} {s s' : Settings} (h : Overlays es s) (h' : Overlays es s') :
    s = s' := by
  obtain ⟨level, ⟨ip, ifconfig, brctl, tunDevice⟩, ⟨infId, guard, lockTimeout⟩⟩ := s
  obtain ⟨level', ⟨ip', ifconfig', brctl', tunDevice'⟩, ⟨infId', guard', lockTimeout'⟩⟩ := s'
  obtain rfl := overlaidOnce levelInjective h.level h'.level
  obtain rfl := overlaidOnce stringInjective h.tools.ip h'.tools.ip
  obtain rfl := overlaidOnce stringInjective h.tools.ifconfig h'.tools.ifconfig
  obtain rfl := overlaidOnce stringInjective h.tools.brctl h'.tools.brctl
  obtain rfl := overlaidOnce stringInjective h.tools.tunDevice h'.tools.tunDevice
  obtain rfl := overlaidOnce stringInjective h.bridge.infId h'.bridge.infId
  obtain rfl := overlaidOnce guardInjective h.bridge.guard h'.bridge.guard
  obtain rfl := overlaidOnce wordInjective h.bridge.lockTimeout h'.bridge.lockTimeout
  rfl

inductive Alike : Value → Value → Prop where
  | same (v : Value) : Alike v v
  | table {standing standing' : Toml.Standing} {es es' : Entries} (order : es.Perm es') :
      Alike (.table standing es) (.table standing' es')

def Reordered (es es' : Entries) : Prop :=
  ∃ mid, es.Perm mid ∧ List.Forall₂ (fun e e' => e.1 = e'.1 ∧ Alike e.2 e'.2) mid es'

variable {es es' : Entries}

theorem getPermuted (once : es.keys.Nodup) (order : es.Perm es') (key : String) :
    es'.get? key = es.get? key := by
  have once' : es'.keys.Nodup := (order.map Prod.fst).nodup_iff.mp once
  refine Option.ext fun v => ?_
  rw [Entries.memGet once, Entries.memGet once', order.mem_iff]

theorem getReordered (once : es.keys.Nodup) (order : Reordered es es') (key : String) :
    Option.Rel Alike (es.get? key) (es'.get? key) := by
  obtain ⟨mid, order, alike⟩ := order
  rw [← getPermuted once order key]
  clear once order
  induction alike with
  | nil => exact .none
  | @cons e e' es es' first _ ih =>
    obtain ⟨k, v⟩ := e
    obtain ⟨k', v'⟩ := e'
    obtain ⟨rfl, alike⟩ : k = k' ∧ Alike v v' := first
    simp only [Entries.get?, List.lookup_cons]
    split
    · exact .some alike
    · exact ih

theorem fitsAlike {key : String} {v v' : Value} (fits : TopFits (key, v)) (alike : Alike v v') :
    TopFits (key, v') := by
  cases alike with
  | same => exact fits
  | table order =>
    cases fits with
    | tools each => exact .tools fun e mem => each e (order.mem_iff.mpr mem)
    | bridge each => exact .bridge fun e mem => each e (order.mem_iff.mpr mem)

theorem fitsReordered (fits : ∀ e ∈ es, TopFits e) (order : Reordered es es') :
    ∀ e ∈ es', TopFits e := by
  obtain ⟨mid, order, alike⟩ := order
  have between : ∀ e ∈ mid, TopFits e := fun e mem => fits e (order.mem_iff.mpr mem)
  clear order
  induction alike with
  | nil => nofun
  | @cons e e' mid es' first _ ih =>
    obtain ⟨k, v⟩ := e
    obtain ⟨k', v'⟩ := e'
    obtain ⟨rfl, alike⟩ : k = k' ∧ Alike v v' := first
    obtain ⟨fit, rest⟩ := List.forall_mem_cons.mp between
    exact List.forall_mem_cons.mpr ⟨fitsAlike fit alike, ih rest⟩

theorem levelReordered (keyed : es.Keyed) (fits : ∀ e ∈ es, TopFits e)
    (order : Reordered es es') : es'.get? "log_level" = es.get? "log_level" := by
  have alike := getReordered keyed.once order "log_level"
  generalize other : es'.get? "log_level" = v' at alike
  cases given : es.get? "log_level" with
  | none =>
    rw [given] at alike
    cases alike
    rfl
  | some v =>
    rw [given] at alike
    have fit := fits _ (Entries.getMem given)
    generalize key : "log_level" = k at fit
    cases fit with
    | level l =>
      cases alike with
      | some alike =>
        cases alike
        rfl
    | tools | bridge => exact absurd key (by decide)

theorem nestedReordered (keyed : es.Keyed) (order : Reordered es es') (table : String) :
    nested es' table = nested es table := by
  have alike := getReordered keyed.once order table
  unfold nested
  generalize es'.get? table = v' at alike
  cases given : es.get? table with
  | none =>
    rw [given] at alike
    cases alike
    rfl
  | some v =>
    rw [given] at alike
    cases alike with
    | some alike =>
      cases alike with
      | same => rfl
      | table inner =>
        funext key
        exact getPermuted (Entries.ofTable (Entries.getKeyed keyed given)).once inner key

theorem reorderedSame {s : Settings} (keyed : es.Keyed) (keyed' : es'.Keyed)
    (fits : ∀ e ∈ es, TopFits e) (order : Reordered es es') (set : ofEntries es = .ok s) :
    ofEntries es' = .ok s := by
  have laid := overlays keyed fits set
  have fits' := fitsReordered fits order
  obtain ⟨s', set', laid'⟩ := fittingOverlays keyed' fits'
  have moved : Overlays es' s :=
    ⟨levelReordered keyed fits order ▸ laid.level,
      nestedReordered keyed order "tools" ▸ laid.tools,
      nestedReordered keyed order "bridge" ▸ laid.bridge⟩
  -- Both documents are followed by `s`, and no document by two settings.
  rw [overlaysOnce moved laid']
  exact set'

end Order

inductive Spoiled (es : Entries) : Prop where
  | top {key : String} {v : Value} (given : (key, v) ∈ es)
      (unknown : key ∉ ["log_level", "tools", "bridge"]) : Spoiled es
  | tool {standing : Toml.Standing} {inner : Entries} {key : String} {v : Value}
      (table : ("tools", .table standing inner) ∈ es) (given : (key, v) ∈ inner)
      (unknown : key ∉ ["ip", "ifconfig", "brctl", "tun_device"]) : Spoiled es
  | bridge {standing : Toml.Standing} {inner : Entries} {key : String} {v : Value}
      (table : ("bridge", .table standing inner) ∈ es) (given : (key, v) ∈ inner)
      (unknown : key ∉ ["inf_id", "ics_guard", "lock_timeout_ms"]) : Spoiled es
  | level {name : String} (given : ("log_level", .string name) ∈ es)
      (unknown : ∀ l : Log.Level, name ≠ levelName l) : Spoiled es
  | guard {standing : Toml.Standing} {inner : Entries} {name : String}
      (table : ("bridge", .table standing inner) ∈ es)
      (given : ("ics_guard", .string name) ∈ inner)
      (unknown : ∀ p : Sharing.Policy, name ≠ guardName p) : Spoiled es
  | lockTimeout {standing : Toml.Standing} {inner : Entries} {n : Int}
      (table : ("bridge", .table standing inner) ∈ es)
      (given : ("lock_timeout_ms", .integer n) ∈ inner)
      (outside : n < 0 ∨ UInt32.size ≤ n) : Spoiled es

section Spoiled
variable {es : Entries} {standing : Toml.Standing} {e : String × Value}

theorem toolsRefused (mem : e ∈ es) (refused : Refused toolFields e) :
    Refused fields ("tools", .table standing es) := by
  intro s s' set
  generalize key : "tools" = k at set
  cases topSet set with
  | tools read => exact setEntriesRefused mem refused _ _ read
  | level | bridge => exact absurd key (by decide)

theorem bridgeRefused (mem : e ∈ es) (refused : Refused bridgeFields e) :
    Refused fields ("bridge", .table standing es) := by
  intro s s' set
  generalize key : "bridge" = k at set
  cases topSet set with
  | bridge read => exact setEntriesRefused mem refused _ _ read
  | level | tools => exact absurd key (by decide)

theorem spoiledRefused (h : Spoiled es) (s : Settings) : ofEntries es ≠ .ok s := by
  cases h with
  | top given unknown =>
    refine setEntriesRefused given (fun s s' set => ?_) _ _
    cases topSet set with
    | level | tools | bridge => simp at unknown
  | tool table given unknown =>
    refine setEntriesRefused table (toolsRefused given fun t t' set => ?_) _ _
    cases toolSet set with
    | ip | ifconfig | brctl | tunDevice => simp at unknown
  | bridge table given unknown =>
    refine setEntriesRefused table (bridgeRefused given fun b b' set => ?_) _ _
    cases bridgeSet set with
    | infId | guard | lockTimeout => simp at unknown
  | level given unknown =>
    refine setEntriesRefused given (fun s s' set => ?_) _ _
    generalize key : "log_level" = k at set
    cases topSet set with
    | level read => exact unknown _ (levelNamed read)
    | tools | bridge => exact absurd key (by decide)
  | guard table given unknown =>
    refine setEntriesRefused table (bridgeRefused given fun b b' set => ?_) _ _
    generalize key : "ics_guard" = k at set
    cases bridgeSet set with
    | guard read => exact unknown _ (guardNamed read)
    | infId | lockTimeout => exact absurd key (by decide)
  | lockTimeout table given outside =>
    refine setEntriesRefused table (bridgeRefused given fun b b' set => ?_) _ _
    generalize key : "lock_timeout_ms" = k at set
    cases bridgeSet set with
    | lockTimeout read =>
      have inside := wordInside read
      omega
    | guard => exact absurd key (by decide)

end Spoiled

section Texts
variable {text : String} {es : Entries}

theorem parseEntries {s : Settings} (read : Toml.parse? text = some es) :
    parse text = .ok s ↔ ofEntries es = .ok s := by
  rw [parse, read]
  dsimp only
  cases ofEntries es with
  | ok s' => simp [Except.mapError]
  | error m => simp [Except.mapError]

end Texts

/-- A document whose entries all fit gives the settings that follow it, and so does any document
with the same entries in another order. One entry that cannot fit is enough for a fault, and so is
what no document can hold, such as an integer past the ones it has. -/
theorem documentLaidOverDefaults (text : String) :
    (∀ es, Toml.parse? text = some es →
      ((∀ e ∈ es, TopFits e) → ∃ s, parse text = .ok s ∧ Overlays es s ∧
        ∀ text' es', Toml.parse? text' = some es' → Reordered es es' → parse text' = .ok s) ∧
      (Spoiled es → ∃ e, parse text = .error e)) ∧
    (Toml.parse? text = none → ∃ e, parse text = .error e) := by
  refine ⟨fun es read => ⟨fun fits => ?_, fun spoiled => ?_⟩, fun unread => ?_⟩
  · have keyed := Toml.parseKeyed read
    obtain ⟨s, set, laid⟩ := fittingOverlays keyed fits
    refine ⟨s, (parseEntries read).mpr set, laid, fun text' es' read' order => ?_⟩
    exact (parseEntries read').mpr (reorderedSame keyed (Toml.parseKeyed read') fits order set)
  · cases result : parse text with
    | error e => exact ⟨e, rfl⟩
    | ok s => exact absurd ((parseEntries read).mp result) (spoiledRefused spoiled s)
  · exact ⟨.notToml, by rw [parse, unread]⟩

theorem debugLaidOver :
    let stated := "log_level = \"debug\"\n[bridge]\nlock_timeout_ms = 7\n"
    let dotted := "bridge.lock_timeout_ms = 7\nlog_level = \"debug\"\n"
    let settings : Settings := { logLevel := .debug, bridge := { lockTimeout := 7 } }
    parse stated = .ok settings ∧ parse dotted = .ok settings ∧
      ∃ e, parse "[tools]\nbrctrl = \"x\"\n" = .error e := by
  intro stated dotted settings
  have timeout : BridgeFits ("lock_timeout_ms", .integer 7) := .lockTimeout 7
  have read : Toml.parse? stated = some [("log_level", .string "debug"),
      ("bridge", .table .stated [("lock_timeout_ms", .integer 7)])] := by cbv
  have other : Toml.parse? dotted = some [("bridge", .table .dotted
      [("lock_timeout_ms", .integer 7)]), ("log_level", .string "debug")] := by cbv
  have unknown : Toml.parse? "[tools]\nbrctrl = \"x\"\n" =
      some [("tools", .table .stated [("brctrl", .string "x")])] := by cbv
  obtain ⟨s, parsed, laid, order⟩ := ((documentLaidOverDefaults stated).1 _ read).1 <| by
    simpa using ⟨TopFits.level .debug, TopFits.bridge (by simpa using timeout)⟩
  obtain rfl : s = settings := overlaysOnce laid
    ⟨.inr rfl, ⟨.inl ⟨rfl, rfl⟩, .inl ⟨rfl, rfl⟩, .inl ⟨rfl, rfl⟩, .inl ⟨rfl, rfl⟩⟩,
      ⟨.inl ⟨rfl, rfl⟩, .inl ⟨rfl, rfl⟩, .inr rfl⟩⟩
  refine ⟨parsed, order _ _ other ?_, ?_⟩
  · refine ⟨[_, _], List.Perm.swap _ _ _, ?_⟩
    exact .cons ⟨rfl, .table (List.Perm.refl _)⟩ (.cons ⟨rfl, .same _⟩ .nil)
  · refine ((documentLaidOverDefaults _).1 _ unknown).2
      (.tool List.mem_cons_self List.mem_cons_self ?_)
    decide

end VmBridge.Settings
