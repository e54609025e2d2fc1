import Mathlib.Data.List.Basic
import VmBridge.Proofs.Text.Utf8
import VmBridge.Text.Blank
/-! Any bytes as text. What is written as a character is read as that character, and each longest
piece that no character can go on from is read as one U+FFFD; then the blanks at both ends go. -/
namespace VmBridge.Text

namespace Utf8

def Opens (piece : Bytes) : Prop := ∃ c : Char, piece <+: String.utf8EncodeChar c

structure Broken (bytes piece : Bytes) : Prop where
  front : piece <+: bytes
  filled : piece ≠ []
  unwritten : ∀ c : Char, ¬ String.utf8EncodeChar c <+: bytes
  opens : piece.length = 1 ∨ Opens piece
  longest : ∀ longer, longer <+: bytes → Opens longer → longer.length ≤ piece.length

inductive Decodes : Bytes → List Char → Prop where
  | nil : Decodes [] []
  | char (c : Char) {rest : Bytes} {cs : List Char} (later : Decodes rest cs) :
      Decodes (String.utf8EncodeChar c ++ rest) (c :: cs)
  | broken {piece rest : Bytes} {cs : List Char} (front : Broken (piece ++ rest) piece)
      (later : Decodes rest cs) : Decodes (piece ++ rest) ('\uFFFD' :: cs)

inductive Stops : List (Nat × Nat) → Bytes → Bytes → Prop where
  | ended {range : Nat × Nat} {more : List (Nat × Nat)} : Stops (range :: more) [] []
  | outside {low high : Nat} {more : List (Nat × Nat)} {b : UInt8} {rest : Bytes}
      (out : ¬ (low ≤ b.toNat ∧ b.toNat ≤ high)) : Stops ((low, high) :: more) [] (b :: rest)
  | inside {low high : Nat} {more : List (Nat × Nat)} {b : UInt8} {consumed left : Bytes}
      (within : low ≤ b.toNat ∧ b.toNat ≤ high) (later : Stops more consumed left) :
      Stops ((low, high) :: more) (b :: consumed) left

theorem followStops {value : Nat} {ranges : List (Nat × Nat)} {bytes left : Bytes}
    (h : follow value ranges bytes = (none, left)) :
    ∃ consumed, bytes = consumed ++ left ∧ Stops ranges consumed left := by
  induction ranges generalizing value bytes with
  | nil => cases h
  | cons range more ih =>
    cases bytes with
    | nil =>
      cases h
      exact ⟨[], rfl, .ended⟩
    | cons b rest =>
      simp only [follow] at h
      split at h
      · rename_i within
        obtain ⟨consumed, rfl, later⟩ := ih h
        exact ⟨b :: consumed, rfl, .inside within later⟩
      · rename_i out
        cases h
        exact ⟨[], rfl, .outside out⟩

theorem stopsAgain {ranges : List (Nat × Nat)} {consumed rest : Bytes} {b : UInt8}
    (h : Stops ranges consumed (b :: rest)) (value : Nat) (other : Bytes) :
    follow value ranges (consumed ++ b :: other) = (none, b :: other) := by
  induction ranges generalizing value consumed with
  | nil => cases h
  | cons range more ih =>
    cases h with
    | outside out => simp [follow, out]
    | inside within later =>
      rw [List.cons_append, follow, if_pos within]
      exact ih later _

theorem opensFront {c : Char} (piece : Bytes) {rest : Bytes}
    (written : String.utf8EncodeChar c = piece ++ rest) : Opens piece := ⟨c, rest, written.symm⟩

theorem stopsOpens {b : UInt8} {value : Nat} {ranges : List (Nat × Nat)} {consumed left : Bytes}
    (lead : Lead b.toNat value ranges) (stops : Stops ranges consumed left) :
    consumed = [] ∨ Opens (b :: consumed) := by
  have filler : 0x80 ≤ (0x80 : UInt8).toNat ∧ (0x80 : UInt8).toNat ≤ 0xBF := by decide
  cases lead with
  | one => cases stops
  | two =>
    cases stops with
    | ended | outside => exact .inl rfl
    | inside _ later => cases later
  | three range bits tail wide scalar =>
    cases stops with
    | ended | outside => exact .inl rfl
    | @inside _ _ _ c consumed _ second later =>
      have written := encodeThree range (b := c) (by omega) filler (by omega) (by omega)
      cases later with
      | ended | outside => exact .inr (opensFront [b, c] written)
      | inside _ later => cases later
  | four range bits tail wide scalar =>
    cases stops with
    | ended | outside => exact .inl rfl
    | @inside _ _ _ c consumed _ second later =>
      cases later with
      | ended | outside =>
        have written := encodeFour range (b := c) (by omega) filler filler (by omega) (by omega)
        exact .inr (opensFront [b, c] written)
      | @inside _ _ _ d consumed _ third later =>
        have written := encodeFour range (b := c) (by omega) third filler (by omega) (by omega)
        cases later with
        | ended | outside => exact .inr (opensFront [b, c, d] written)
        | inside _ later => cases later

theorem stepStops {b : UInt8} {rest left : Bytes} (h : step b rest = (none, left)) :
    ∃ consumed, rest = consumed ++ left ∧ (consumed = [] ∨ Opens (b :: consumed)) ∧
      ∀ next later, left = next :: later → ∀ other,
        step b (consumed ++ next :: other) = (none, next :: other) := by
  unfold step at h
  split at h
  · rename_i value ranges found
    obtain ⟨consumed, same, stops⟩ := followStops h
    refine ⟨consumed, same, stopsOpens (leadAnnounces found) stops, ?_⟩
    rintro next later rfl other
    unfold step
    rw [found]
    exact stopsAgain stops value other
  · rename_i found
    cases h
    refine ⟨[], rfl, .inl rfl, fun next later _ other => ?_⟩
    unfold step
    rw [found]
    rfl

theorem stepBroken {b : UInt8} {rest left : Bytes} (h : step b rest = (none, left)) :
    ∃ piece, b :: rest = piece ++ left ∧ Broken (piece ++ left) piece := by
  obtain ⟨consumed, rfl, opens, again⟩ := stepStops h
  have reads : ∀ {c : Char} {more : Bytes}, String.utf8EncodeChar c = b :: more → ∀ other,
      step b (more ++ other) = (some c, other) := by
    intro c more written other
    obtain ⟨b', more', same, reads⟩ := stepReads c
    rw [same] at written
    cases written
    exact reads other
  refine ⟨b :: consumed, rfl, ⟨List.prefix_append _ _, by simp, ?_, ?_, ?_⟩⟩
  · rintro c ⟨other, same⟩
    obtain ⟨b', more, written, _⟩ := stepReads c
    rw [written, List.cons_append, List.cons_append] at same
    obtain ⟨rfl, tail⟩ := List.cons.inj same
    rw [← tail, reads written] at h
    cases h
  · rcases opens with rfl | opens
    · exact .inl rfl
    · exact .inr opens
  · rintro longer front ⟨c, final, written⟩
    by_contra further
    -- Past the piece, `longer` has the byte that the reading stopped at.
    obtain ⟨extra, rfl⟩ := List.prefix_of_prefix_length_le (List.prefix_append (b :: consumed) left)
      front (by omega)
    cases extra with
    | nil => simp at further
    | cons next extra =>
      obtain ⟨other, same⟩ := front
      have stopped : left = next :: (extra ++ other) := by simpa using same.symm
      have whole : String.utf8EncodeChar c = b :: (consumed ++ next :: (extra ++ final)) := by
        simpa using written.symm
      have read := reads whole []
      rw [List.append_nil, again next _ stopped] at read
      cases read

theorem scanDecodes (bytes : Bytes) : Decodes bytes (lossyChars bytes) := by
  induction bytes using scan.induct with
  | case1 =>
    rw [lossyChars, scan]
    exact .nil
  | case2 b rest ih =>
    rw [lossyChars, scan, List.map_cons]
    rcases read : step b rest with ⟨_ | c, left⟩
    · rw [read] at ih
      obtain ⟨piece, same, broken⟩ := stepBroken read
      rw [same]
      exact .broken broken ih
    · rw [read] at ih
      rw [stepWritten read]
      exact .char c ih

theorem brokenOnce {bytes piece piece' : Bytes} (h : Broken bytes piece)
    (h' : Broken bytes piece') : piece = piece' := by
  -- A piece of one byte is not longer than the other, and one that opens a character is not either.
  have shorter : ∀ {piece piece' : Bytes}, Broken bytes piece → Broken bytes piece' →
      piece.length ≤ piece'.length := by
    intro piece piece' h h'
    rcases h.opens with one | opens
    · have filled := List.length_pos_iff.mpr h'.filled
      omega
    · exact h'.longest piece h.front opens
  have same : piece.length = piece'.length := Nat.le_antisymm (shorter h h') (shorter h' h)
  exact (List.prefix_of_prefix_length_le h.front h'.front (Nat.le_of_eq same)).eq_of_length same

theorem decodesLossy {bytes : Bytes} {cs : List Char} :
    Decodes bytes cs ↔ cs = lossyChars bytes := by
  refine ⟨fun h => ?_, fun same => same ▸ scanDecodes bytes⟩
  induction h with
  | nil =>
    rw [lossyChars, scan]
    rfl
  | @char c rest cs _ ih =>
    obtain ⟨b, more, written, reads⟩ := stepReads c
    rw [written, List.cons_append, lossyChars, scan, reads, ih]
    rfl
  | @broken piece rest cs front _ ih =>
    cases piece with
    | nil => exact absurd rfl front.filled
    | cons b consumed =>
      rw [List.cons_append, lossyChars, scan]
      rcases read : step b (consumed ++ rest) with ⟨_ | c, left⟩
      · obtain ⟨piece, same, broken⟩ := stepBroken read
        rw [← same] at broken
        obtain rfl : b :: consumed = piece := brokenOnce front broken
        obtain rfl : rest = left := List.append_cancel_left (List.cons.inj same).2
        rw [ih]
        rfl
      · exact absurd ⟨left, (stepWritten read).symm⟩ (front.unwritten c)

theorem encodeDecodes (s : String) : Decodes (encode s) s.toList := by
  unfold encode
  induction s.toList with
  | nil => exact .nil
  | cons c cs ih => exact .char c ih

end Utf8

structure Trimmed (whole inner : List Char) : Prop where
  around : ∃ before after, whole = before ++ inner ++ after ∧
    (∀ c ∈ before, c.toNat ∈ whiteSpace) ∧ ∀ c ∈ after, c.toNat ∈ whiteSpace
  first : ∀ c, inner.head? = some c → c.toNat ∉ whiteSpace
  last : ∀ c, inner.getLast? = some c → c.toNat ∉ whiteSpace

theorem trimLeftTrims (cs : List Char) : ∃ before, cs = before ++ trimLeft cs ∧
    (∀ c ∈ before, c.toNat ∈ whiteSpace) ∧
      ∀ c, (trimLeft cs).head? = some c → c.toNat ∉ whiteSpace := by
  refine ⟨cs.takeWhile isBlank, List.takeWhile_append_dropWhile.symm, ?_, ?_⟩
  · exact fun c mem => blankListed.mp (List.all_eq_true.mp List.all_takeWhile c mem)
  · intro c first listed
    have shown := List.head?_dropWhile_not isBlank cs
    rw [show (cs.dropWhile isBlank).head? = some c from first] at shown
    exact absurd (blankListed.mpr listed) (by simpa using shown)

theorem trimRightTrims (cs : List Char) : ∃ after, cs = trimRight cs ++ after ∧
    (∀ c ∈ after, c.toNat ∈ whiteSpace) ∧
      ∀ c, (trimRight cs).getLast? = some c → c.toNat ∉ whiteSpace := by
  obtain ⟨before, same, blank, first⟩ := trimLeftTrims cs.reverse
  refine ⟨before.reverse, ?_, by simpa using blank, ?_⟩
  · rw [trimRight, ← List.reverse_append, ← trimLeft, ← same, List.reverse_reverse]
  · intro c last
    refine first c ?_
    rwa [trimRight, List.getLast?_reverse] at last

theorem trimCharsTrimmed (cs : List Char) : Trimmed cs (trimChars cs) := by
  obtain ⟨before, front, blank, first⟩ := trimLeftTrims cs
  obtain ⟨after, back, blank', last⟩ := trimRightTrims (trimLeft cs)
  refine ⟨⟨before, after, ?_, blank, blank'⟩, ?_, last⟩
  · rw [List.append_assoc, trimChars, ← back, ← front]
  · intro c shown
    refine first c ?_
    rw [back, List.head?_append, show (trimRight (trimLeft cs)).head? = some c from shown]
    rfl

end VmBridge.Text
