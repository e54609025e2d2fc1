import Mathlib.Data.List.Nodup
import VmBridge.Toml.Document
/-! A document gives no key twice, at the top or in any table below, however its tables came to
be: under headers, between braces or by dotted keys. -/
namespace VmBridge.Toml

inductive Value.Flat : Value → Prop where
  | string (s : String) : Value.Flat (.string s)
  | integer (n : Int) : Value.Flat (.integer n)
  | float (x : Decimal.Binary64) : Value.Flat (.float x)
  | boolean (b : Bool) : Value.Flat (.boolean b)
  | datetime (text : String) : Value.Flat (.datetime text)

def Entries.keys (es : Entries) : List String := es.map Prod.fst

inductive Value.Keyed : Value → Prop where
  | flat {v : Value} (plain : v.Flat) : Value.Keyed v
  | array {items : List Value} (each : ∀ v ∈ items, Value.Keyed v) : Value.Keyed (.array items)
  | tables {older : List Entries} {last : Entries}
      (once : ∀ es ∈ last :: older, (Entries.keys es).Nodup)
      (each : ∀ es ∈ last :: older, ∀ e ∈ es, Value.Keyed e.2) : Value.Keyed (.tables older last)
  | table {standing : Standing} {es : Entries} (once : (Entries.keys es).Nodup)
      (each : ∀ e ∈ es, Value.Keyed e.2) : Value.Keyed (.table standing es)

structure Entries.Keyed (es : Entries) : Prop where
  once : es.keys.Nodup
  each : ∀ e ∈ es, e.2.Keyed

namespace Entries
variable {es : Entries} {key : String} {v : Value}

theorem getMem (found : es.get? key = some v) : (key, v) ∈ es := by
  obtain ⟨before, after, rfl, _⟩ := List.lookup_eq_some_iff.mp found
  simp

theorem getNone : es.get? key = none ↔ key ∉ es.keys := by
  simp only [get?, List.lookup_eq_none_iff, keys, List.mem_map, not_exists, not_and]
  exact ⟨fun other e mem same => by simpa [same] using other e mem,
    fun other e mem => by simpa using fun same => other e mem same.symm⟩

theorem memGet (once : es.keys.Nodup) : es.get? key = some v ↔ (key, v) ∈ es := by
  refine ⟨getMem, fun mem => ?_⟩
  cases found : es.get? key with
  | none => exact absurd (List.mem_map_of_mem mem) (getNone.mp found)
  | some w =>
    have same := List.inj_on_of_nodup_map once mem (getMem found) rfl
    rw [(Prod.mk.inj same).2]

theorem noneKeyed : Keyed [] := ⟨List.nodup_nil, by simp⟩

theorem ofTable {standing : Standing} (h : (Value.table standing es).Keyed) : es.Keyed := by
  cases h with
  | flat plain => cases plain
  | table once each => exact ⟨once, each⟩

theorem tableKeyed (standing : Standing) (h : es.Keyed) : (Value.table standing es).Keyed :=
  .table h.once h.each

theorem ofTables {older : List Entries} (h : (Value.tables older es).Keyed) :
    ∀ inner ∈ es :: older, Keyed inner := by
  cases h with
  | flat plain => cases plain
  | tables once each => exact fun inner mem => ⟨once inner mem, each inner mem⟩

theorem tablesKeyed {older : List Entries} (h : ∀ inner ∈ es :: older, Keyed inner) :
    (Value.tables older es).Keyed :=
  .tables (fun inner mem => (h inner mem).once) fun inner mem => (h inner mem).each

theorem getKeyed (h : es.Keyed) (found : es.get? key = some v) : v.Keyed :=
  h.each _ (getMem found)

theorem replaceKeyed (h : es.Keyed) (new : v.Keyed) : (es.replace key v).Keyed := by
  constructor
  · have same : (es.replace key v).keys = es.keys := by
      rw [replace, keys, List.map_map]
      refine List.map_congr_left fun e _ => ?_
      simp only [Function.comp_apply]
      split
      · simp_all
      · rfl
    rw [same]
    exact h.once
  · intro e mem
    obtain ⟨old, inside, rfl⟩ := List.mem_map.mp mem
    dsimp only
    split
    · exact new
    · exact h.each old inside

theorem appendKeyed (h : es.Keyed) (fresh : key ∉ es.keys) (new : v.Keyed) :
    Keyed (es ++ [(key, v)]) := by
  constructor
  · rw [keys, List.map_append]
    exact h.once.append (List.nodup_singleton key) (List.disjoint_singleton.mpr fresh)
  · intro e mem
    rcases List.mem_append.mp mem with old | last
    · exact h.each e old
    · rw [List.mem_singleton.mp last]
      exact new

theorem putLastKeyed (h : es.Keyed) (new : v.Keyed) : (es.putLast key v).Keyed := by
  refine appendKeyed ⟨?_, fun e mem => h.each e (List.mem_filter.mp mem).1⟩ ?_ new
  · exact h.once.sublist (List.filter_sublist.map _)
  · simp [keys]

theorem addKeyed {es' : Entries} (h : es.Keyed) (new : v.Keyed) (added : es.add? key v = some es') :
    es'.Keyed := by
  unfold add? at added
  split at added
  · cases added
  · rename_i missing
    cases added
    exact appendKeyed h (getNone.mp missing) new

end Entries

namespace Table
variable {t t' : Table} {key : String} {path : List String} {v : Value}

theorem descendKeyed {made : Standing} {work : Table → Option Table}
    (keeps : ∀ {t t' : Table}, t.entries.Keyed → work t = some t' → t'.entries.Keyed)
    (h : t.entries.Keyed) (done : descend made work path t = some t') : t'.entries.Keyed := by
  -- On the way down a key is new, or the value that it has is replaced: it never comes twice.
  induction path generalizing t t' with
  | nil => exact keeps h done
  | cons key path ih =>
    unfold descend at done
    split at done
    · rename_i missing
      obtain ⟨new, below, same⟩ := Option.bind_eq_some_iff.mp done
      cases same
      exact Entries.appendKeyed h (Entries.getNone.mp missing)
        (Entries.tableKeyed _ (ih Entries.noneKeyed below))
    · rename_i older last found
      obtain ⟨new, below, same⟩ := Option.bind_eq_some_iff.mp done
      cases same
      have all := Entries.ofTables (Entries.getKeyed h found)
      have inner := ih (all last List.mem_cons_self) below
      refine Entries.replaceKeyed h (Entries.tablesKeyed fun es mem => ?_)
      rcases List.mem_cons.mp mem with rfl | before
      · exact inner
      · exact all es (List.mem_cons_of_mem _ before)
    · rename_i standing entries found
      split at done
      · cases done
      · obtain ⟨new, below, same⟩ := Option.bind_eq_some_iff.mp done
        cases same
        have inner := ih (Entries.ofTable (Entries.getKeyed h found)) below
        exact Entries.replaceKeyed h (Entries.tableKeyed _ inner)
    · cases done

theorem putKeyed (new : v.Keyed) (h : t.entries.Keyed) (done : t.put path key v = some t') :
    t'.entries.Keyed := by
  refine descendKeyed ?_ h done
  intro t t' h done
  split at done
  · obtain ⟨entries, added, same⟩ := Option.map_eq_some_iff.mp done
    cases same
    exact Entries.addKeyed h new added
  · cases done

theorem stateKeyed (h : t.entries.Keyed) (done : t.state key = some t') : t'.entries.Keyed := by
  unfold state at done
  split at done
  · cases done
    exact Entries.putLastKeyed h (Entries.tableKeyed _ Entries.noneKeyed)
  · rename_i entries found
    cases done
    exact Entries.putLastKeyed h (Entries.tableKeyed _ (Entries.ofTable (Entries.getKeyed h found)))
  · cases done

theorem stateAnotherKeyed (h : t.entries.Keyed) (done : t.stateAnother key = some t') :
    t'.entries.Keyed := by
  unfold stateAnother at done
  split at done
  · rename_i missing
    cases done
    refine Entries.appendKeyed h (Entries.getNone.mp missing) (Entries.tablesKeyed ?_)
    simpa using Entries.noneKeyed
  · rename_i older last found
    cases done
    have all := Entries.ofTables (Entries.getKeyed h found)
    refine Entries.replaceKeyed h (Entries.tablesKeyed fun es mem => ?_)
    rcases List.mem_cons.mp mem with rfl | before
    · exact Entries.noneKeyed
    · rcases List.mem_append.mp before with earlier | ended
      · exact all es (List.mem_cons_of_mem _ earlier)
      · rw [List.mem_singleton.mp ended]
        exact all last List.mem_cons_self
  · cases done

end Table

section Readers

structure Found {α : Type} (P : α → Prop) (found : Option (α × List Char)) : Prop where
  so : ∀ {a left}, found = some (a, left) → P a

theorem foundOne {α : Type} {P : α → Prop} {a : α} (h : P a) (left : List Char) :
    Found P (some (a, left)) := by
  refine ⟨fun same => ?_⟩
  cases same
  exact h

theorem foundNone {α : Type} {P : α → Prop} : Found P none := ⟨nofun⟩

theorem foundBind {α β : Type} {P : β → Prop} {found : Option α}
    {next : α → Option (β × List Char)} (h : ∀ a, found = some a → Found P (next a)) :
    Found P (found.bind next) := by
  cases found with
  | none => exact foundNone
  | some a => exact h a rfl

theorem foundMap {α β : Type} {P : α → Prop} {Q : β → Prop} {make : α → β}
    {found : Option (α × List Char)} (first : Found P found) (h : ∀ a, P a → Q (make a)) :
    Found Q (found.map fun (a, left) => (make a, left)) := by
  cases found with
  | none => exact foundNone
  | some a => exact foundOne (h a.1 (first.so rfl)) a.2

theorem foundBeside {α β : Type} {P : β → Prop} {found : Option α} {make : α → β × List Char}
    (h : ∀ a, found = some a → P (make a).1) : Found P (found.map make) := by
  cases found with
  | none => exact foundNone
  | some a => exact foundOne (h a rfl) (make a).2

theorem integerFlat {negative : Bool} {magnitude : Nat} {v : Value}
    (h : integerValue? negative magnitude = some v) : v.Flat := by
  unfold integerValue? at h
  repeat' split at h
  all_goals cases h
  all_goals exact .integer _

theorem floatFlat {negative : Bool} {whole fraction : List Char} {exponent : Int} {v : Value}
    (h : floatValue? negative whole fraction exponent = some v) : v.Flat := by
  unfold floatValue? at h
  dsimp only at h
  split at h
  · cases h
  · cases h
    exact .float _

theorem basedFlat (base : Nat) (isDigit : Char → Bool) (cs : List Char) :
    Found Value.Flat (basedInteger base isDigit cs) :=
  foundBind fun _ _ => foundBind fun _ read => foundOne (integerFlat read) _

theorem decimalFlat (cs : List Char) : Found Value.Flat (decimal cs) := by
  refine foundBind fun ⟨whole, left⟩ _ => ?_
  dsimp only
  split
  · refine foundBind fun ⟨fraction, left⟩ _ => ?_
    dsimp only
    split
    · exact foundBeside fun _ => floatFlat
    · exact foundBeside fun _ => floatFlat
  · split
    · exact foundBeside fun _ => floatFlat
    · exact foundBeside fun _ => integerFlat

theorem specialFlat (negative : Bool) (cs : List Char) :
    Found Value.Flat (special? negative cs) := by
  unfold special?
  split
  · exact foundOne (.float _) _
  · exact foundOne (.float _) _
  · exact foundNone

theorem numberFlat (cs : List Char) : Found Value.Flat (number cs) := by
  unfold number
  split
  · exact basedFlat _ _ _
  · exact basedFlat _ _ _
  · exact basedFlat _ _ _
  · split
    · rename_i found special
      rw [← special]
      exact specialFlat _ _
    · exact decimalFlat _

theorem datetimeFlat (cs : List Char) : Found Value.Flat (datetime cs) :=
  foundBeside fun _ _ => .datetime _

theorem scalarFlat (cs : List Char) : Found Value.Flat (scalar cs) := by
  unfold scalar
  split
  · exact foundBeside fun _ _ => .string _
  · exact foundBeside fun _ _ => .string _
  · exact foundBeside fun _ _ => .boolean _
  · exact foundBeside fun _ _ => .boolean _
  · split
    · rename_i found dated
      rw [← dated]
      exact datetimeFlat _
    · exact numberFlat _

section Nested
variable {element : Reader Value} (h : ∀ cs, Found Value.Keyed (element cs))
include h

theorem elementsKeyed (fuel : Nat) (cs : List Char) :
    Found (fun vs => ∀ v ∈ vs, v.Keyed) (elements element fuel cs) := by
  induction fuel generalizing cs with
  | zero => exact foundNone
  | succ fuel ih =>
    unfold elements
    split
    · exact foundOne (by simp) _
    · refine foundBind fun ⟨first, left⟩ read => ?_
      have keyed := (h _).so read
      dsimp only
      split
      · refine foundMap (ih _) fun vs rest => ?_
        exact List.forall_mem_cons.mpr ⟨keyed, rest⟩
      · exact foundOne (by simpa using keyed) _
      · exact foundNone

theorem pairKeyed (cs : List Char) : Found (fun found => found.2.Keyed) (pair element cs) := by
  refine foundBind fun key _ => foundBind fun left _ => foundBind fun ⟨v, rest⟩ read => ?_
  have keyed : v.Keyed := (h _).so read
  exact foundOne (a := (key.1, v)) keyed rest

theorem pairsKeyed (fuel : Nat) {t : Table} (so : t.entries.Keyed) (cs : List Char) :
    Found Entries.Keyed (pairs element fuel t cs) := by
  induction fuel generalizing t cs with
  | zero => exact foundNone
  | succ fuel ih =>
    refine foundBind fun ⟨⟨⟨path, k⟩, v⟩, left⟩ read => foundBind fun t' put => ?_
    have keyed := Table.putKeyed ((pairKeyed h _).so read) so put
    split
    · exact ih keyed _
    · exact foundOne keyed _
    · exact foundNone

theorem inlineKeyed (cs : List Char) : Found Value.Keyed (inlineTable element cs) := by
  unfold inlineTable
  split
  · exact foundOne (Entries.tableKeyed _ Entries.noneKeyed) _
  · exact foundMap (pairsKeyed h _ Entries.noneKeyed _) fun _ keyed =>
      Entries.tableKeyed _ keyed

end Nested

theorem valueKeyed (depth : Nat) (cs : List Char) : Found Value.Keyed (value depth cs) := by
  have flat : ∀ cs, Found Value.Keyed (scalar cs) := fun cs => ⟨fun read =>
    .flat ((scalarFlat cs).so read)⟩
  induction depth generalizing cs with
  | zero => exact flat cs
  | succ depth ih =>
    unfold value
    split
    · exact foundMap (elementsKeyed ih _ _) fun _ each => .array each
    · exact inlineKeyed ih _
    · exact flat _

def Line.Keyed : Line → Prop
  | pair _ _ v => v.Keyed
  | header _ _ | another _ _ => True

theorem pairLineKeyed (cs : List Char) : Found Line.Keyed (pairLine cs) := by
  refine foundBind fun ⟨⟨⟨path, k⟩, v⟩, left⟩ read => foundBind fun rest _ => ?_
  have keyed : v.Keyed := (pairKeyed (valueKeyed _) _).so read
  exact foundOne (a := Line.pair path k v) keyed rest

theorem headerLineKeyed (cs : List Char) : Found Line.Keyed (headerLine cs) := by
  unfold headerLine
  split
  all_goals
    refine foundBind fun key _ => foundBind fun left _ => foundBind fun rest _ => ?_
    exact foundOne trivial rest

theorem lineKeyed (cs : List Char) : Found (fun l? => ∀ l ∈ l?, Line.Keyed l) (line cs) := by
  unfold line
  split
  · exact foundMap (headerLineKeyed _) fun l keyed => by simpa using keyed
  · exact foundBeside fun _ _ => nofun
  · split
    · exact foundOne nofun _
    · exact foundMap (pairLineKeyed _) fun l keyed => by simpa using keyed

theorem linesFromKeyed {fuel : Nat} {seen placed : List Placed} {cs : List Char}
    (h : ∀ p ∈ seen, p.2.Keyed) (read : linesFrom fuel seen cs = some placed) :
    ∀ p ∈ placed, p.2.Keyed := by
  induction fuel generalizing seen cs with
  | zero => cases read
  | succ fuel ih =>
    unfold linesFrom at read
    split at read
    · cases read
      simpa using h
    · split at read
      · cases read
      · rename_i l left found
        have keyed := (lineKeyed cs).so found l rfl
        exact ih (List.forall_mem_cons.mpr ⟨keyed, h⟩) read
      · exact ih h read

end Readers

namespace Draft
variable {d d' : Draft}

theorem addKeyed {l : Line} (new : l.Keyed) (h : d.root.entries.Keyed)
    (added : d.add l = some d') : d'.root.entries.Keyed := by
  cases l with
  | pair path key v =>
    obtain ⟨root, done, same⟩ := Option.map_eq_some_iff.mp added
    cases same
    exact Table.descendKeyed (fun h put => Table.putKeyed new h put) h done
  | header path key =>
    obtain ⟨root, done, same⟩ := Option.map_eq_some_iff.mp added
    cases same
    exact Table.descendKeyed Table.stateKeyed h done
  | another path key =>
    obtain ⟨root, done, same⟩ := Option.map_eq_some_iff.mp added
    cases same
    exact Table.descendKeyed Table.stateAnotherKeyed h done

theorem addAllKeyed {lines : List Line} (new : ∀ l ∈ lines, l.Keyed) (h : d.root.entries.Keyed)
    (added : d.addAll lines = some d') : d'.root.entries.Keyed := by
  induction lines generalizing d with
  | nil =>
    cases added
    exact h
  | cons l lines ih =>
    obtain ⟨first, rest⟩ := List.forall_mem_cons.mp new
    obtain ⟨next, one, more⟩ := Option.bind_eq_some_iff.mp added
    exact ih rest (addKeyed first h one) more

end Draft

theorem parseKeyed {text : String} {es : Entries} (read : parse? text = some es) : es.Keyed := by
  obtain ⟨placed, lines, rest⟩ := Option.bind_eq_some_iff.mp read
  obtain ⟨d, added, same⟩ := Option.bind_eq_some_iff.mp rest
  cases same
  have keyed : ∀ p ∈ placed, p.2.Keyed := linesFromKeyed (by simp) lines
  exact Draft.addAllKeyed (List.forall_mem_map.mpr keyed) Entries.noneKeyed added

end VmBridge.Toml
