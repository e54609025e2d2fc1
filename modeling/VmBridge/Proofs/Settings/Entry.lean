import VmBridge.Proofs.Toml.Keyed
import VmBridge.Settings.Decode
/-! What one entry of a document can do to a record of settings: it sets the part that its key names
to what its value reads as, or it is refused whatever stands before it. -/
namespace VmBridge.Settings
open Toml (Value Entries)

section Records
variable {α : Type} {fields : List (Field α)} {entries : Entries}

def Taken (fields : List (Field α)) (e : String × Value) : Prop :=
  ∀ a, ∃ a', setField fields a e.1 e.2 = .ok a'

def Refused (fields : List (Field α)) (e : String × Value) : Prop :=
  ∀ a a', setField fields a e.1 e.2 ≠ .ok a'

theorem setFieldNamed {a a' : α} {key : String} {v : Value}
    (h : setField fields a key v = .ok a') :
    ∃ field ∈ fields, field.name = key ∧ field.set a v = .ok a' := by
  unfold setField at h
  split at h
  · rename_i field found
    exact ⟨field, List.mem_of_find?_eq_some found, by simpa using List.find?_some found, h⟩
  · cases h

theorem setEntriesCons {a a' : α} {e : String × Value}
    (h : setEntries fields a (e :: entries) = .ok a') :
    ∃ next, setField fields a e.1 e.2 = .ok next ∧ setEntries fields next entries = .ok a' := by
  obtain ⟨key, v⟩ := e
  unfold setEntries at h
  cases one : setField fields a key v with
  | error m =>
    rw [one] at h
    cases h
  | ok next =>
    rw [one] at h
    exact ⟨next, rfl, h⟩

theorem setEntriesTaken (each : ∀ e ∈ entries, Taken fields e) (a : α) :
    ∃ a', setEntries fields a entries = .ok a' := by
  induction entries generalizing a with
  | nil => exact ⟨a, rfl⟩
  | cons e entries ih =>
    obtain ⟨first, rest⟩ := List.forall_mem_cons.mp each
    obtain ⟨next, one⟩ := first a
    obtain ⟨a', more⟩ := ih rest next
    refine ⟨a', ?_⟩
    rw [setEntries, one]
    exact more

theorem setEntriesRefused {e : String × Value} (mem : e ∈ entries) (refused : Refused fields e)
    (a a' : α) : setEntries fields a entries ≠ .ok a' := by
  intro h
  induction entries generalizing a with
  | nil => cases mem
  | cons other entries ih =>
    obtain ⟨next, one, more⟩ := setEntriesCons h
    rcases List.mem_cons.mp mem with rfl | later
    · exact refused a next one
    · exact ih later next more

structure Part {β : Type} (fields : List (Field α)) (key : String) (part : α → β)
    (Reads : Value → β → Prop) : Prop where
  step : ∀ {a k v a'}, setField fields a k v = .ok a' →
    k = key ∧ Reads v (part a') ∨ k ≠ key ∧ part a' = part a

def Laid {β : Type} (Reads : Value → β → Prop) (given : Option Value) (default actual : β) :
    Prop :=
  match given with
  | some v => Reads v actual
  | none => actual = default

theorem setEntriesPart {β : Type} {key : String} {part : α → β} {Reads : Value → β → Prop}
    {a a' : α} (h : Part fields key part Reads) (once : entries.keys.Nodup)
    (set : setEntries fields a entries = .ok a') :
    Laid Reads (entries.get? key) (part a) (part a') := by
  induction entries generalizing a with
  | nil =>
    cases set
    rfl
  | cons e entries ih =>
    obtain ⟨k, v⟩ := e
    obtain ⟨fresh, once⟩ := List.nodup_cons.mp once
    obtain ⟨next, one, more⟩ := setEntriesCons set
    have rest := ih once more
    rcases h.step one with ⟨rfl, read⟩ | ⟨other, untouched⟩
    · -- No later entry has the key again, so what this one set stays.
      have given : Entries.get? ((k, v) :: entries) k = some v := by simp [Entries.get?]
      rw [Entries.getNone.mpr fresh] at rest
      have kept : part a' = part next := rest
      rw [given, Laid, kept]
      exact read
    · have given : Entries.get? ((k, v) :: entries) key = Entries.get? entries key := by
        simp [Entries.get?, List.lookup_cons, beq_eq_false_iff_ne.mpr other.symm]
      rw [given, ← untouched]
      exact rest

end Records

theorem mapOk {α β : Type} {r : Except Misfit α} {make : α → β} {b : β} (h : r.map make = .ok b) :
    ∃ a, r = .ok a ∧ b = make a := by
  cases r with
  | error m => cases h
  | ok a =>
    cases h
    exact ⟨a, rfl, rfl⟩

theorem stringRead {wanted s : String} {v : Value} (h : string wanted v = .ok s) :
    v = .string s := by
  unfold string at h
  split at h
  · cases h
    rfl
  · cases h

inductive ToolSet (t : Tools) : String → Value → Tools → Prop where
  | ip (s : String) : ToolSet t "ip" (.string s) { t with ip := s }
  | ifconfig (s : String) : ToolSet t "ifconfig" (.string s) { t with ifconfig := s }
  | brctl (s : String) : ToolSet t "brctl" (.string s) { t with brctl := s }
  | tunDevice (s : String) : ToolSet t "tun_device" (.string s) { t with tunDevice := s }

theorem toolSet {t t' : Tools} {key : String} {v : Value}
    (h : setField toolFields t key v = .ok t') : ToolSet t key v t' := by
  obtain ⟨field, mem, rfl, set⟩ := setFieldNamed h
  simp only [toolFields, List.mem_cons, List.not_mem_nil, or_false] at mem
  rcases mem with rfl | rfl | rfl | rfl
  all_goals
    obtain ⟨s, read, rfl⟩ := mapOk set
    obtain rfl := stringRead read
  · exact .ip s
  · exact .ifconfig s
  · exact .brctl s
  · exact .tunDevice s

inductive BridgeSet (b : BridgeSettings) : String → Value → BridgeSettings → Prop where
  | infId (s : String) : BridgeSet b "inf_id" (.string s) { b with infId := s }
  | guard {v : Value} {p : Sharing.Policy} (read : choice guardChoices v = .ok p) :
      BridgeSet b "ics_guard" v { b with guard := p }
  | lockTimeout {v : Value} {n : UInt32} (read : word32 v = .ok n) :
      BridgeSet b "lock_timeout_ms" v { b with lockTimeout := n }

theorem bridgeSet {b b' : BridgeSettings} {key : String} {v : Value}
    (h : setField bridgeFields b key v = .ok b') : BridgeSet b key v b' := by
  obtain ⟨field, mem, rfl, set⟩ := setFieldNamed h
  simp only [bridgeFields, List.mem_cons, List.not_mem_nil, or_false] at mem
  rcases mem with rfl | rfl | rfl
  all_goals obtain ⟨part, read, rfl⟩ := mapOk set
  · obtain rfl := stringRead read
    exact .infId part
  · exact .guard read
  · exact .lockTimeout read

inductive TopSet (s : Settings) : String → Value → Settings → Prop where
  | level {v : Value} {l : Log.Level} (read : choice levelChoices v = .ok l) :
      TopSet s "log_level" v { s with logLevel := l }
  | tools {v : Value} {t : Tools} (read : record toolFields "struct ToolsConfig" {} v = .ok t) :
      TopSet s "tools" v { s with tools := t }
  | bridge {v : Value} {b : BridgeSettings}
      (read : record bridgeFields "struct BridgeConfig" {} v = .ok b) :
      TopSet s "bridge" v { s with bridge := b }

theorem topSet {s s' : Settings} {key : String} {v : Value}
    (h : setField fields s key v = .ok s') : TopSet s key v s' := by
  obtain ⟨field, mem, rfl, set⟩ := setFieldNamed h
  simp only [fields, List.mem_cons, List.not_mem_nil, or_false] at mem
  rcases mem with rfl | rfl | rfl
  all_goals obtain ⟨part, read, rfl⟩ := mapOk set
  · exact .level read
  · exact .tools read
  · exact .bridge read

theorem choiceString {α : Type} {known : List (String × α)} {name : String} {a : α}
    (h : choice known (.string name) = .ok a) : (name, a) ∈ known := by
  have chosen : chosen known name = .ok a := h
  unfold Settings.chosen at chosen
  split at chosen
  · rename_i b found
    cases chosen
    obtain ⟨before, after, rfl, _⟩ := List.lookup_eq_some_iff.mp found
    simp
  · cases chosen

def levelName : Log.Level → String
  | .off => "off"
  | .error => "error"
  | .warn => "warn"
  | .info => "info"
  | .debug => "debug"
  | .trace => "trace"

def guardName : Sharing.Policy → String
  | .bind => "bind"
  | .always => "always"
  | .off => "off"

theorem levelNamed {name : String} {l : Log.Level}
    (h : choice levelChoices (.string name) = .ok l) : name = levelName l := by
  obtain ⟨l', _, same⟩ := List.mem_map.mp (choiceString h)
  cases same
  cases l <;> rfl

theorem guardNamed {name : String} {p : Sharing.Policy}
    (h : choice guardChoices (.string name) = .ok p) : name = guardName p := by
  obtain ⟨p', _, same⟩ := List.mem_map.mp (choiceString h)
  cases same
  cases p <;> rfl

theorem levelChosen (l : Log.Level) : choice levelChoices (.string (levelName l)) = .ok l := by
  cases l <;> rfl

theorem guardChosen (p : Sharing.Policy) : choice guardChoices (.string (guardName p)) = .ok p := by
  cases p <;> rfl

theorem wordRead (n : UInt32) : word32 (.integer n.toNat) = .ok n := by
  have small : n.toNat < 2 ^ 32 := n.toNat_lt
  have inside : (0 : Int) ≤ n.toNat ∧ (n.toNat : Int) ≤ mostWord := by
    unfold mostWord
    omega
  rw [word32, if_pos inside, Int.toNat_natCast, UInt32.ofNat_toNat]

theorem wordInside {n : Int} {w : UInt32} (h : word32 (.integer n) = .ok w) :
    0 ≤ n ∧ n < UInt32.size := by
  unfold word32 at h
  dsimp only at h
  split at h
  · unfold mostWord at *
    unfold UInt32.size
    omega
  · cases h

inductive ToolFits : String × Value → Prop where
  | ip (s : String) : ToolFits ("ip", .string s)
  | ifconfig (s : String) : ToolFits ("ifconfig", .string s)
  | brctl (s : String) : ToolFits ("brctl", .string s)
  | tunDevice (s : String) : ToolFits ("tun_device", .string s)

inductive BridgeFits : String × Value → Prop where
  | infId (s : String) : BridgeFits ("inf_id", .string s)
  | guard (p : Sharing.Policy) : BridgeFits ("ics_guard", .string (guardName p))
  | lockTimeout (n : UInt32) : BridgeFits ("lock_timeout_ms", .integer n.toNat)

inductive TopFits : String × Value → Prop where
  | level (l : Log.Level) : TopFits ("log_level", .string (levelName l))
  | tools {standing : Toml.Standing} {es : Entries} (each : ∀ e ∈ es, ToolFits e) :
      TopFits ("tools", .table standing es)
  | bridge {standing : Toml.Standing} {es : Entries} (each : ∀ e ∈ es, BridgeFits e) :
      TopFits ("bridge", .table standing es)

theorem toolTaken {e : String × Value} (fits : ToolFits e) : Taken toolFields e := by
  intro t
  cases fits with
  | ip | ifconfig | brctl | tunDevice => exact ⟨_, rfl⟩

theorem bridgeTaken {e : String × Value} (fits : BridgeFits e) : Taken bridgeFields e := by
  intro b
  cases fits with
  | infId s => exact ⟨_, rfl⟩
  | guard p =>
    have set : setField bridgeFields b "ics_guard" (.string (guardName p)) =
        (choice guardChoices (.string (guardName p))).map fun guard => { b with guard } := rfl
    exact ⟨_, by rw [set, guardChosen]; rfl⟩
  | lockTimeout n =>
    have set : setField bridgeFields b "lock_timeout_ms" (.integer n.toNat) =
        (word32 (.integer n.toNat)).map fun lockTimeout => { b with lockTimeout } := rfl
    exact ⟨_, by rw [set, wordRead]; rfl⟩

theorem topTaken {e : String × Value} (fits : TopFits e) : Taken fields e := by
  intro s
  cases fits with
  | level l =>
    have set : setField fields s "log_level" (.string (levelName l)) =
        (choice levelChoices (.string (levelName l))).map fun logLevel => { s with logLevel } := rfl
    exact ⟨_, by rw [set, levelChosen]; rfl⟩
  | @tools standing es each =>
    obtain ⟨t, taken⟩ := setEntriesTaken (fun e mem => toolTaken (each e mem)) {}
    have set : setField fields s "tools" (.table standing es) =
        (setEntries toolFields {} es).map fun tools => { s with tools } := rfl
    exact ⟨_, by rw [set, taken]; rfl⟩
  | @bridge standing es each =>
    obtain ⟨b, taken⟩ := setEntriesTaken (fun e mem => bridgeTaken (each e mem)) {}
    have set : setField fields s "bridge" (.table standing es) =
        (setEntries bridgeFields {} es).map fun bridge => { s with bridge } := rfl
    exact ⟨_, by rw [set, taken]; rfl⟩

end VmBridge.Settings
