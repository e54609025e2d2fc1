import Mathlib.Data.List.SplitLengths
import VmBridge.Proofs.Owner.NumericText
import VmBridge.Proofs.Text.Letters
import VmBridge.Sharing.Adapter
/-! The texts that name one GUID. Thirty-two hexadecimal digits in five groups, in either case, with
or without braces, with blanks around them: two such texts are taken for the same GUID exactly if
they are spelled from the same number, so an adapter is found under every spelling of its own. -/
namespace VmBridge.Sharing
open Owner (cased digits? digitsAppend digitWritten value)

def hexPlaces : Nat → Nat → List Char
  | 0, _ => []
  | places + 1, n => hexPlaces places (n / 16) ++ [Nat.digitChar (n % 16)]

def groups : List Nat := [8, 4, 4, 4, 12]

def hyphenated (digits : List Char) : List Char := ['-'].intercalate (groups.splitLengths digits)

abbrev Guid := BitVec 128

def Guid.chars (g : Guid) : List Char := hyphenated (hexPlaces 32 g.toNat)

structure Spelling where
  guid : Guid
  capital : Nat → Bool
  braced : Bool
  before : List Char
  after : List Char
  blank : ∀ c ∈ before ++ after, c.toNat ∈ Text.whiteSpace

namespace Spelling

def brace (s : Spelling) (c : Char) : List Char := if s.braced then [c] else []

def body (s : Spelling) : List Char := cased s.capital s.guid.chars

def core (s : Spelling) : List Char := s.brace '{' ++ s.body ++ s.brace '}'

def text (s : Spelling) : String := String.ofList (s.before ++ s.core ++ s.after)

end Spelling

section Places
variable {m n places : Nat}

theorem placesLength (places n : Nat) : (hexPlaces places n).length = places := by
  induction places generalizing n with
  | zero => rfl
  | succ places ih => simp [hexPlaces, ih]

theorem placesDigits {c : Char} (mem : c ∈ hexPlaces places n) :
    ∃ d < 16, c = Nat.digitChar d := by
  induction places generalizing n with
  | zero => cases mem
  | succ places ih =>
    rcases List.mem_append.mp mem with front | last
    · exact ih front
    · exact ⟨n % 16, Nat.mod_lt n (by decide), List.mem_singleton.mp last⟩

theorem placesWritten (places n : Nat) :
    (digits? 16 (hexPlaces places n)).map (value 16) = some (n % 16 ^ places) := by
  induction places generalizing n with
  | zero => simp [hexPlaces, digits?, value, Nat.mod_one]
  | succ places ih =>
    obtain ⟨ds, front, whole⟩ := Option.map_eq_some_iff.mp (ih (n / 16))
    have last : digits? 16 [Nat.digitChar (n % 16)] = some [n % 16] := by
      simp [digits?, digitWritten (Nat.le_refl 16) (Nat.mod_lt n (by decide))]
    have split : value 16 (ds ++ [n % 16]) = value 16 ds * 16 + n % 16 := by simp [value]
    rw [hexPlaces, digitsAppend, front, last]
    simp only [Option.bind_eq_bind, Option.bind_some, Option.map_some, split, whole]
    rw [Nat.pow_succ', Nat.mod_mul, Nat.mul_comm, Nat.add_comm]

theorem placesSame (same : hexPlaces places m = hexPlaces places n) :
    m % 16 ^ places = n % 16 ^ places := by
  have read := placesWritten places m
  rw [same, placesWritten] at read
  exact (Option.some.inj read).symm

end Places

theorem hyphensDropped (parts : List (List Char)) (plain : ∀ c ∈ parts.flatten, c ≠ '-') :
    (['-'].intercalate parts).filter (· ≠ '-') = parts.flatten := by
  have kept {part : List Char} (inside : ∀ c ∈ part, c ≠ '-') : part.filter (· ≠ '-') = part :=
    List.filter_eq_self.mpr fun c mem => decide_eq_true (inside c mem)
  induction parts with
  | nil => rfl
  | cons part rest ih =>
    rw [List.flatten_cons, List.forall_mem_append] at plain
    cases rest with
    | nil => simpa using kept plain.1
    | cons next rest =>
      have hyphen : ['-'].filter (· ≠ '-') = [] := by decide
      rw [List.intercalate_cons_cons, List.filter_append, List.filter_append, kept plain.1, hyphen,
        ih plain.2, List.append_nil]
      exact List.flatten_cons.symm

namespace Guid

theorem charsDigits (g : Guid) : g.chars.filter (· ≠ '-') = hexPlaces 32 g.toNat := by
  have whole : (groups.splitLengths (hexPlaces 32 g.toNat)).flatten = hexPlaces 32 g.toNat :=
    List.flatten_splitLengths _ _ (by rw [placesLength]; decide)
  have unhyphenated : ∀ d < 16, Nat.digitChar d ≠ '-' := by decide
  rw [chars, hyphenated, hyphensDropped, whole]
  rw [whole]
  intro c mem
  obtain ⟨d, small, rfl⟩ := placesDigits mem
  exact unhyphenated d small

theorem charsInjective {g h : Guid} (same : g.chars = h.chars) : g = h := by
  have digits : hexPlaces 32 g.toNat = hexPlaces 32 h.toNat := by
    rw [← charsDigits, ← charsDigits, same]
  -- Thirty-two digits hold all 128 bits.
  have whole (k : Guid) : k.toNat % 16 ^ 32 = k.toNat := Nat.mod_eq_of_lt k.isLt
  refine BitVec.eq_of_toNat_eq ?_
  rw [← whole g, ← whole h]
  exact placesSame digits

theorem charsKnown {g : Guid} {c : Char} (mem : c ∈ g.chars) :
    c = '-' ∨ ∃ d < 16, c = Nat.digitChar d := by
  by_cases hyphen : c = '-'
  · exact .inl hyphen
  · have digit : c ∈ hexPlaces 32 g.toNat := by
      rw [← charsDigits]
      exact List.mem_filter.mpr ⟨mem, decide_eq_true hyphen⟩
    exact .inr (placesDigits digit)

theorem charsSome (g : Guid) : g.chars ≠ [] := by
  intro none
  have length := placesLength 32 g.toNat
  rw [← charsDigits, none] at length
  cases length

end Guid

section Ends
variable {α : Type} {p : α → Bool} {front inner back : List α}

theorem frontDropped (passed : ∀ a ∈ front, p a = true) (kept : ∀ a ∈ inner, p a = false)
    (some : inner ≠ []) : (front ++ inner ++ back).dropWhile p = inner ++ back := by
  obtain ⟨first, rest, rfl⟩ := List.exists_cons_of_ne_nil some
  have stops : ¬ p first = true := by simp [kept first]
  rw [List.append_assoc, List.dropWhile_append_of_pos passed, List.cons_append,
    List.dropWhile_cons_of_neg stops]

theorem backDropped (kept : ∀ a ∈ inner, p a = false) (passed : ∀ a ∈ back, p a = true)
    (some : inner ≠ []) : ((inner ++ back).reverse.dropWhile p).reverse = inner := by
  have dropped : (back.reverse ++ inner.reverse ++ []).dropWhile p = inner.reverse ++ [] :=
    frontDropped (by simpa using passed) (by simpa using kept) (by simpa using some)
  rw [List.append_nil, ← List.reverse_append, List.append_nil] at dropped
  rw [dropped, List.reverse_reverse]

end Ends

section Cased
variable (capital : Nat → Bool) {cs : List Char}

theorem casedFrom {c : Char} (mem : c ∈ cased capital cs) : ∃ d ∈ cs, c = d ∨ c = d.toUpper := by
  obtain ⟨i, inside, rfl⟩ := List.mem_mapIdx.mp mem
  refine ⟨cs[i], List.getElem_mem inside, ?_⟩
  split
  · exact .inr rfl
  · exact .inl rfl

-- The places to write with capitals move down along the text.
theorem casedLowered (plain : ∀ c ∈ cs, c.toLower = c ∧ c.toUpper.toLower = c) :
    (cased capital cs).map Char.toLower = cs := by
  induction cs generalizing capital with
  | nil => rfl
  | cons c rest ih =>
    rw [List.forall_mem_cons] at plain
    have later := ih (fun i => capital (i + 1)) plain.2
    have first : (if capital 0 then c.toUpper else c).toLower = c := by
      split
      · exact plain.1.2
      · exact plain.1.1
    unfold cased at later ⊢
    rw [List.mapIdx_cons, List.map_cons, first, later]

end Cased

def Solid (c : Char) : Prop := Text.isBlank c = false ∧ c ≠ '{' ∧ c ≠ '}'
instance (c : Char) : Decidable (Solid c) := by unfold Solid; infer_instance

namespace Spelling
variable (s : Spelling)

theorem bodyLowered : s.body.map Char.toLower = s.guid.chars := by
  have small : ∀ d < 16, (Nat.digitChar d).toLower = Nat.digitChar d ∧
      (Nat.digitChar d).toUpper.toLower = Nat.digitChar d := by decide
  refine casedLowered s.capital fun c mem => ?_
  rcases Guid.charsKnown mem with rfl | ⟨d, low, rfl⟩
  · decide
  · exact small d low

theorem bodySolid {c : Char} (mem : c ∈ s.body) : Solid c := by
  have small : ∀ d < 16, Solid (Nat.digitChar d) ∧ Solid (Nat.digitChar d).toUpper := by decide
  obtain ⟨origin, known, cased⟩ := casedFrom s.capital mem
  rcases Guid.charsKnown known with rfl | ⟨d, low, rfl⟩
  · rcases cased with rfl | rfl <;> decide
  · rcases cased with rfl | rfl
    · exact (small d low).1
    · exact (small d low).2

theorem bodySome : s.body ≠ [] := by
  simpa [body, cased] using s.guid.charsSome

theorem braceOnly {c d : Char} (mem : c ∈ s.brace d) : c = d := by
  unfold brace at mem
  split at mem
  · exact List.mem_singleton.mp mem
  · cases mem

theorem coreSolid {c : Char} (mem : c ∈ s.core) : Text.isBlank c = false := by
  simp only [core, List.mem_append] at mem
  rcases mem with (front | inside) | back
  · rw [s.braceOnly front]
    decide
  · exact (s.bodySolid inside).1
  · rw [s.braceOnly back]
    decide

-- The blanks end at a brace or a digit; past the braces there is a digit again.
theorem textTrimmed : Text.trimChars s.text.toList = s.core := by
  have some : s.core ≠ [] := by simp [core, s.bodySome]
  have solid : ∀ c ∈ s.core, Text.isBlank c = false := fun _ => s.coreSolid
  have blank := List.forall_mem_append.mp fun c mem => Text.blankListed.mpr (s.blank c mem)
  rw [text, String.toList_ofList, Text.trimChars, Text.trimLeft, frontDropped blank.1 solid some]
  exact backDropped solid blank.2 some

theorem bareText : bareGuid s.text = s.guid.chars := by
  have opened : s.core.dropWhile (· = '{') = s.body ++ s.brace '}' :=
    frontDropped (fun c mem => decide_eq_true (s.braceOnly mem))
      (fun c mem => decide_eq_false (s.bodySolid mem).2.1) s.bodySome
  have closed : trimEndChars '}' (s.body ++ s.brace '}') = s.body :=
    backDropped (fun c mem => decide_eq_false (s.bodySolid mem).2.2)
      (fun c mem => decide_eq_true (s.braceOnly mem)) s.bodySome
  rw [bareGuid, s.textTrimmed, opened, closed, s.bodyLowered]

end Spelling

theorem sameGuidSpelled (s t : Spelling) : sameGuid s.text t.text = true ↔ s.guid = t.guid := by
  rw [sameGuid, decide_eq_true_eq, s.bareText, t.bareText]
  exact ⟨Guid.charsInjective, congrArg Guid.chars⟩

structure Identified where
  spelling : Spelling
  devicePath : Option String

namespace Identified

def adapter (i : Identified) : Adapter := ⟨i.spelling.text, i.devicePath⟩

def Answers (i : Identified) (device : Spelling) : Prop :=
  i.spelling.guid = device.guid ∨
    ∃ path, i.devicePath = some path ∧
      List.Forall₂ Text.SameLetter path.toList device.text.toList

theorem adapterMeant (i : Identified) (device : Spelling) :
    i.adapter.isMeantBy device.text = true ↔ i.Answers device := by
  rw [Adapter.isMeantBy, Bool.or_eq_true, Option.any_eq_true, Answers, or_comm]
  exact or_congr (sameGuidSpelled i.spelling device) (exists_congr fun path =>
    and_congr_right fun _ => decide_eq_true_iff.trans Text.equalLetters)

end Identified

section Known
variable {known : List Identified} {device : Spelling}

theorem matchAdapterKnown : matchAdapter (known.map Identified.adapter) device.text =
    (known.find? (·.adapter.isMeantBy device.text)).map (·.spelling.text) := by
  rw [matchAdapter, List.find?_map, Option.map_map]
  rfl

theorem matchAdapterFirst (text : String) :
    matchAdapter (known.map Identified.adapter) device.text = some text ↔
      ∃ before first after, known = before ++ first :: after ∧ first.Answers device ∧
        (∀ i ∈ before, ¬ i.Answers device) ∧ first.spelling.text = text := by
  simp only [matchAdapterKnown, Option.map_eq_some_iff, List.find?_eq_some_iff_append,
    Bool.not_eq_true', ← Bool.not_eq_true, Identified.adapterMeant]
  constructor
  · rintro ⟨first, ⟨answers, before, after, split, others⟩, same⟩
    exact ⟨before, first, after, split, answers, others, same⟩
  · rintro ⟨before, first, after, split, answers, others, same⟩
    exact ⟨first, ⟨answers, before, after, split, others⟩, same⟩

theorem matchAdapterNone : matchAdapter (known.map Identified.adapter) device.text = none ↔
    ∀ i ∈ known, ¬ i.Answers device := by
  simp only [matchAdapterKnown, Option.map_eq_none_iff, List.find?_eq_none,
    Identified.adapterMeant]

end Known

/-- Two spellings are taken for one GUID exactly if they spell one. So a device that is named by a
spelling is found at the first adapter of its GUID or of a device path that reads like the spelling,
case aside, and at no adapter only where there is none such. -/
theorem guidSpellings (s t device : Spelling) (known : List Identified) :
    (sameGuid s.text t.text = true ↔ s.guid = t.guid) ∧
    (∀ text, matchAdapter (known.map Identified.adapter) device.text = some text ↔
      ∃ before first after, known = before ++ first :: after ∧ first.Answers device ∧
        (∀ i ∈ before, ¬ i.Answers device) ∧ first.spelling.text = text) ∧
    (matchAdapter (known.map Identified.adapter) device.text = none ↔
      ∀ i ∈ known, ¬ i.Answers device) :=
  ⟨sameGuidSpelled s t, matchAdapterFirst, matchAdapterNone⟩

example : (⟨0x4D36E972E32511CEBFC108002BE10318, (· < 4), true, ['\t'], [' '],
    by simp [Text.whiteSpace]⟩ : Spelling).text =
      "\t\x7b4D36e972-e325-11ce-bfc1-08002be10318\x7d " := by decide

end VmBridge.Sharing
