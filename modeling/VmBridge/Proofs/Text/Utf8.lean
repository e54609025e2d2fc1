import VmBridge.Text.Utf8
/-! Bytes that are text are the bytes of that text: what a character is read from is what it
is written as, and what it is written as reads back as that character. -/
namespace VmBridge.Text.Utf8

theorem followNext {value low high : Nat} {more : List (Nat × Nat)} {bytes left : Bytes} {c : Char}
    (h : follow value ((low, high) :: more) bytes = (some c, left)) :
    ∃ b rest, bytes = b :: rest ∧ low ≤ b.toNat ∧ b.toNat ≤ high ∧
      follow (value * 64 + (b.toNat - 0x80)) more rest = (some c, left) := by
  cases bytes with
  | nil => simp [follow] at h
  | cons b rest =>
    simp only [follow] at h
    split at h
    · rename_i inside
      exact ⟨b, rest, rfl, inside.1, inside.2, h⟩
    · cases h

theorem followEnd {value : Nat} {bytes left : Bytes} {c : Char}
    (h : follow value [] bytes = (some c, left)) : c = Char.ofNat value ∧ left = bytes := by
  cases h
  exact ⟨rfl, rfl⟩

theorem ofNatVal {v : Nat} (valid : v.isValidChar) : (Char.ofNat v).val.toNat = v := by
  unfold Char.ofNat
  rw [dif_pos valid]
  rfl

theorem byteOf {n : Nat} {b : UInt8} (h : n = b.toNat) : UInt8.ofNat n = b := by
  rw [h, UInt8.ofNat_toNat]

theorem encodeOne {a : UInt8} (small : a.toNat < 0x80) :
    String.utf8EncodeChar (Char.ofNat a.toNat) = [a] := by
  have value : (Char.ofNat a.toNat).val.toNat = a.toNat := ofNatVal (Or.inl (by omega))
  simp only [String.utf8EncodeChar, value]
  rw [if_pos (by omega), byteOf rfl]

theorem encodeTwo {a b : UInt8} (first : 0xC2 ≤ a.toNat ∧ a.toNat ≤ 0xDF)
    (second : 0x80 ≤ b.toNat ∧ b.toNat ≤ 0xBF) :
    String.utf8EncodeChar (Char.ofNat ((a.toNat - 0xC0) * 64 + (b.toNat - 0x80))) = [a, b] := by
  have value := ofNatVal (v := (a.toNat - 0xC0) * 64 + (b.toNat - 0x80)) (Or.inl (by omega))
  simp only [String.utf8EncodeChar, value]
  rw [if_neg (by omega), if_pos (by omega), byteOf (b := a) (by omega), byteOf (b := b) (by omega)]

theorem encodeThree {a b c : UInt8} (first : 0xE0 ≤ a.toNat ∧ a.toNat ≤ 0xEF)
    (second : 0x80 ≤ b.toNat ∧ b.toNat ≤ 0xBF) (third : 0x80 ≤ c.toNat ∧ c.toNat ≤ 0xBF)
    (wide : a.toNat = 0xE0 → 0xA0 ≤ b.toNat) (scalar : a.toNat = 0xED → b.toNat ≤ 0x9F) :
    String.utf8EncodeChar
      (Char.ofNat (((a.toNat - 0xE0) * 64 + (b.toNat - 0x80)) * 64 + (c.toNat - 0x80))) =
        [a, b, c] := by
  generalize code : ((a.toNat - 0xE0) * 64 + (b.toNat - 0x80)) * 64 + (c.toNat - 0x80) = v
  have valid : v.isValidChar := by
    unfold Nat.isValidChar
    omega
  simp only [String.utf8EncodeChar, ofNatVal valid]
  rw [if_neg (by omega), if_neg (by omega), if_pos (by omega), byteOf (b := a) (by omega),
    byteOf (b := b) (by omega), byteOf (b := c) (by omega)]

theorem encodeFour {a b c d : UInt8} (first : 0xF0 ≤ a.toNat ∧ a.toNat ≤ 0xF4)
    (second : 0x80 ≤ b.toNat ∧ b.toNat ≤ 0xBF) (third : 0x80 ≤ c.toNat ∧ c.toNat ≤ 0xBF)
    (fourth : 0x80 ≤ d.toNat ∧ d.toNat ≤ 0xBF) (wide : a.toNat = 0xF0 → 0x90 ≤ b.toNat)
    (scalar : a.toNat = 0xF4 → b.toNat ≤ 0x8F) :
    String.utf8EncodeChar (Char.ofNat ((((a.toNat - 0xF0) * 64 + (b.toNat - 0x80)) * 64 +
      (c.toNat - 0x80)) * 64 + (d.toNat - 0x80))) = [a, b, c, d] := by
  generalize code : (((a.toNat - 0xF0) * 64 + (b.toNat - 0x80)) * 64 + (c.toNat - 0x80)) * 64 +
    (d.toNat - 0x80) = v
  have valid : v.isValidChar := by
    unfold Nat.isValidChar
    omega
  simp only [String.utf8EncodeChar, ofNatVal valid]
  rw [if_neg (by omega), if_neg (by omega), if_neg (by omega), byteOf (b := a) (by omega),
    byteOf (b := b) (by omega), byteOf (b := c) (by omega), byteOf (b := d) (by omega)]

inductive Lead (b : Nat) : Nat → List (Nat × Nat) → Prop where
  | one {value} (small : b < 0x80) (bits : value = b) : Lead b value []
  | two {value} (range : 0xC2 ≤ b ∧ b ≤ 0xDF) (bits : value = b - 0xC0) :
      Lead b value [(0x80, 0xBF)]
  | three {value low high} (range : 0xE0 ≤ b ∧ b ≤ 0xEF) (bits : value = b - 0xE0)
      (tail : 0x80 ≤ low ∧ high ≤ 0xBF) (wide : b = 0xE0 → 0xA0 ≤ low)
      (scalar : b = 0xED → high ≤ 0x9F) : Lead b value [(low, high), (0x80, 0xBF)]
  | four {value low high} (range : 0xF0 ≤ b ∧ b ≤ 0xF4) (bits : value = b - 0xF0)
      (tail : 0x80 ≤ low ∧ high ≤ 0xBF) (wide : b = 0xF0 → 0x90 ≤ low)
      (scalar : b = 0xF4 → high ≤ 0x8F) : Lead b value [(low, high), (0x80, 0xBF), (0x80, 0xBF)]

theorem leadAnnounces {b value : Nat} {ranges : List (Nat × Nat)}
    (h : lead? b = some (value, ranges)) : Lead b value ranges := by
  unfold lead? at h
  dsimp only at h
  repeat' split at h
  all_goals simp only [Option.some.injEq, Prod.mk.injEq, reduceCtorEq] at h
  all_goals obtain ⟨bits, rfl⟩ := h
  · exact .one (by assumption) bits.symm
  · exact .two (by assumption) bits.symm
  · exact .three (by omega) (by omega) (by omega) (by omega) (by omega)
  · exact .three (by omega) (by omega) (by omega) (by omega) (by omega)
  · exact .three (by omega) (by omega) (by omega) (by omega) (by omega)
  · exact .four (by omega) (by omega) (by omega) (by omega) (by omega)
  · exact .four (by omega) (by omega) (by omega) (by omega) (by omega)
  · exact .four (by omega) (by omega) (by omega) (by omega) (by omega)

theorem stepWritten {b : UInt8} {rest left : Bytes} {c : Char}
    (h : step b rest = (some c, left)) : b :: rest = String.utf8EncodeChar c ++ left := by
  unfold step at h
  split at h
  case h_2 => cases h
  case h_1 value ranges found =>
    cases leadAnnounces found with
    | one small bits =>
      obtain ⟨same, last⟩ := followEnd h
      rw [same, last, bits, encodeOne small]
      rfl
    | two range bits =>
      obtain ⟨b2, rest, split2, low2, high2, h⟩ := followNext h
      obtain ⟨same, last⟩ := followEnd h
      rw [same, last, bits, split2, encodeTwo range ⟨low2, high2⟩]
      rfl
    | three range bits tail wide scalar =>
      obtain ⟨b2, rest, split2, low2, high2, h⟩ := followNext h
      obtain ⟨b3, rest, split3, low3, high3, h⟩ := followNext h
      obtain ⟨same, last⟩ := followEnd h
      rw [same, last, bits, split2, split3,
        encodeThree range (by omega) ⟨low3, high3⟩ (by omega) (by omega)]
      rfl
    | four range bits tail wide scalar =>
      obtain ⟨b2, rest, split2, low2, high2, h⟩ := followNext h
      obtain ⟨b3, rest, split3, low3, high3, h⟩ := followNext h
      obtain ⟨b4, rest, split4, low4, high4, h⟩ := followNext h
      obtain ⟨same, last⟩ := followEnd h
      rw [same, last, bits, split2, split3, split4,
        encodeFour range (by omega) ⟨low3, high3⟩ ⟨low4, high4⟩ (by omega) (by omega)]
      rfl

theorem scanWritten (bytes : Bytes) {cs : List Char} (h : (scan bytes).mapM id = some cs) :
    cs.flatMap String.utf8EncodeChar = bytes := by
  induction bytes using scan.induct generalizing cs with
  | case1 =>
    rw [scan] at h
    cases h
    rfl
  | case2 b rest ih =>
    rw [scan, List.mapM_cons] at h
    obtain ⟨c, first, later⟩ := Option.bind_eq_some_iff.mp h
    obtain ⟨more, tail, last⟩ := Option.bind_eq_some_iff.mp later
    cases last
    rw [List.flatMap_cons, ih tail]
    exact (stepWritten (Prod.ext first rfl)).symm

theorem decodeWritten {bytes : Bytes} {s : String} (h : decode? bytes = some s) :
    encode s = bytes := by
  obtain ⟨cs, scanned, rfl⟩ := Option.map_eq_some_iff.mp h
  rw [encode, String.toList_ofList]
  exact scanWritten bytes scanned

theorem followInside {value low high : Nat} {more : List (Nat × Nat)} {b : UInt8} {rest : Bytes}
    (inside : low ≤ b.toNat ∧ b.toNat ≤ high) :
    follow value ((low, high) :: more) (b :: rest) =
      follow (value * 64 + (b.toNat - 0x80)) more rest := by
  rw [follow, if_pos inside]

theorem leadOne {b : Nat} (small : b < 0x80) : lead? b = some (b, []) := by
  unfold lead?
  rw [if_pos small]

theorem leadTwo {b : Nat} (range : 0xC2 ≤ b ∧ b ≤ 0xDF) :
    lead? b = some (b - 0xC0, [(0x80, 0xBF)]) := by
  unfold lead?
  rw [if_neg (by omega), if_pos range]

theorem leadThree {b second : Nat} (range : 0xE0 ≤ b ∧ b ≤ 0xEF)
    (tail : 0x80 ≤ second ∧ second ≤ 0xBF) (wide : b = 0xE0 → 0xA0 ≤ second)
    (scalar : b = 0xED → second ≤ 0x9F) :
    ∃ low high, lead? b = some (b - 0xE0, [(low, high), (0x80, 0xBF)]) ∧
      low ≤ second ∧ second ≤ high := by
  unfold lead?
  dsimp only
  rw [if_neg (by omega), if_neg (by omega)]
  by_cases first : b = 0xE0
  · subst first
    exact ⟨0xA0, 0xBF, rfl, wide rfl, tail.2⟩
  rw [if_neg first]
  by_cases surrogate : b = 0xED
  · subst surrogate
    exact ⟨0x80, 0x9F, rfl, tail.1, scalar rfl⟩
  rw [if_neg surrogate, if_pos (by omega)]
  exact ⟨0x80, 0xBF, rfl, tail⟩

theorem leadFour {b second : Nat} (range : 0xF0 ≤ b ∧ b ≤ 0xF4)
    (tail : 0x80 ≤ second ∧ second ≤ 0xBF) (wide : b = 0xF0 → 0x90 ≤ second)
    (scalar : b = 0xF4 → second ≤ 0x8F) :
    ∃ low high, lead? b = some (b - 0xF0, [(low, high), (0x80, 0xBF), (0x80, 0xBF)]) ∧
      low ≤ second ∧ second ≤ high := by
  unfold lead?
  dsimp only
  rw [if_neg (by omega), if_neg (by omega), if_neg (by omega), if_neg (by omega),
    if_neg (by omega)]
  by_cases first : b = 0xF0
  · subst first
    exact ⟨0x90, 0xBF, rfl, wide rfl, tail.2⟩
  rw [if_neg first]
  by_cases last : b = 0xF4
  · subst last
    exact ⟨0x80, 0x8F, rfl, tail.1, scalar rfl⟩
  rw [if_pos (by omega)]
  exact ⟨0x80, 0xBF, rfl, tail⟩

theorem stepOne {a : UInt8} (small : a.toNat < 0x80) (rest : Bytes) :
    step a rest = (some (Char.ofNat a.toNat), rest) := by
  unfold step
  rw [leadOne small]
  rfl

theorem stepTwo {a b : UInt8} (first : 0xC2 ≤ a.toNat ∧ a.toNat ≤ 0xDF)
    (second : 0x80 ≤ b.toNat ∧ b.toNat ≤ 0xBF) (rest : Bytes) : step a (b :: rest) =
      (some (Char.ofNat ((a.toNat - 0xC0) * 64 + (b.toNat - 0x80))), rest) := by
  unfold step
  rw [leadTwo first]
  dsimp only
  rw [followInside second]
  rfl

theorem stepThree {a b c : UInt8} (first : 0xE0 ≤ a.toNat ∧ a.toNat ≤ 0xEF)
    (second : 0x80 ≤ b.toNat ∧ b.toNat ≤ 0xBF) (third : 0x80 ≤ c.toNat ∧ c.toNat ≤ 0xBF)
    (wide : a.toNat = 0xE0 → 0xA0 ≤ b.toNat) (scalar : a.toNat = 0xED → b.toNat ≤ 0x9F)
    (rest : Bytes) : step a (b :: c :: rest) = (some (Char.ofNat
      (((a.toNat - 0xE0) * 64 + (b.toNat - 0x80)) * 64 + (c.toNat - 0x80))), rest) := by
  obtain ⟨low, high, lead, inside⟩ := leadThree first second wide scalar
  unfold step
  rw [lead]
  dsimp only
  rw [followInside inside, followInside third]
  rfl

theorem stepFour {a b c d : UInt8} (first : 0xF0 ≤ a.toNat ∧ a.toNat ≤ 0xF4)
    (second : 0x80 ≤ b.toNat ∧ b.toNat ≤ 0xBF) (third : 0x80 ≤ c.toNat ∧ c.toNat ≤ 0xBF)
    (fourth : 0x80 ≤ d.toNat ∧ d.toNat ≤ 0xBF) (wide : a.toNat = 0xF0 → 0x90 ≤ b.toNat)
    (scalar : a.toNat = 0xF4 → b.toNat ≤ 0x8F) (rest : Bytes) : step a (b :: c :: d :: rest) =
      (some (Char.ofNat ((((a.toNat - 0xF0) * 64 + (b.toNat - 0x80)) * 64 +
        (c.toNat - 0x80)) * 64 + (d.toNat - 0x80))), rest) := by
  obtain ⟨low, high, lead, inside⟩ := leadFour first second wide scalar
  unfold step
  rw [lead]
  dsimp only
  rw [followInside inside, followInside third, followInside fourth]
  rfl

theorem byteVal {n : Nat} (small : n < 256) : (UInt8.ofNat n).toNat = n :=
  UInt8.toNat_ofNat_of_lt' small

theorem stepReads (c : Char) : ∃ b more, String.utf8EncodeChar c = b :: more ∧
    ∀ rest, step b (more ++ rest) = (some c, rest) := by
  have whole : Char.ofNat c.val.toNat = c := Char.ofNat_toNat c
  have valid : c.val.toNat.isValidChar := c.valid
  unfold String.utf8EncodeChar
  dsimp only
  generalize c.val.toNat = v at whole valid
  unfold Nat.isValidChar at valid
  -- One case for each length, as the encoding chooses it.
  by_cases one : v ≤ 0x7F
  · rw [if_pos one]
    refine ⟨_, _, rfl, fun rest => ?_⟩
    have first : (UInt8.ofNat v).toNat = v := byteVal (by omega)
    rw [List.nil_append, stepOne (by omega), first, whole]
  rw [if_neg one]
  by_cases two : v ≤ 0x7FF
  · rw [if_pos two]
    refine ⟨_, _, rfl, fun rest => ?_⟩
    have first := byteVal (n := v / 64 % 32 + 192) (by omega)
    have second := byteVal (n := v % 64 + 128) (by omega)
    have value : (v / 64 % 32 + 192 - 0xC0) * 64 + (v % 64 + 128 - 0x80) = v := by omega
    rw [List.cons_append, List.nil_append, stepTwo (by omega) (by omega), first, second, value,
      whole]
  rw [if_neg two]
  by_cases three : v ≤ 0xFFFF
  · rw [if_pos three]
    refine ⟨_, _, rfl, fun rest => ?_⟩
    have first := byteVal (n := v / 4096 % 16 + 224) (by omega)
    have second := byteVal (n := v / 64 % 64 + 128) (by omega)
    have third := byteVal (n := v % 64 + 128) (by omega)
    have value : ((v / 4096 % 16 + 224 - 0xE0) * 64 + (v / 64 % 64 + 128 - 0x80)) * 64 +
      (v % 64 + 128 - 0x80) = v := by omega
    rw [List.cons_append, List.cons_append, List.nil_append, stepThree (by omega) (by omega)
      (by omega) (by omega) (by omega), first, second, third, value, whole]
  · rw [if_neg three]
    refine ⟨_, _, rfl, fun rest => ?_⟩
    have first := byteVal (n := v / 262144 % 8 + 240) (by omega)
    have second := byteVal (n := v / 4096 % 64 + 128) (by omega)
    have third := byteVal (n := v / 64 % 64 + 128) (by omega)
    have fourth := byteVal (n := v % 64 + 128) (by omega)
    have value : (((v / 262144 % 8 + 240 - 0xF0) * 64 + (v / 4096 % 64 + 128 - 0x80)) * 64 +
      (v / 64 % 64 + 128 - 0x80)) * 64 + (v % 64 + 128 - 0x80) = v := by omega
    rw [List.cons_append, List.cons_append, List.cons_append, List.nil_append,
      stepFour (by omega) (by omega) (by omega) (by omega) (by omega) (by omega), first, second,
      third, fourth, value, whole]

theorem scanReads (cs : List Char) :
    (scan (cs.flatMap String.utf8EncodeChar)).mapM id = some cs := by
  induction cs with
  | nil =>
    rw [List.flatMap_nil, scan]
    rfl
  | cons c cs ih =>
    obtain ⟨b, more, written, reads⟩ := stepReads c
    rw [List.flatMap_cons, written, List.cons_append, scan, reads, List.mapM_cons, ih]
    rfl

theorem decodeEncode (s : String) : decode? (encode s) = some s := by
  rw [decode?, encode, scanReads, Option.map_some, String.ofList_toList]

theorem encodeLength (s : String) : (encode s).length = s.utf8ByteSize := by
  rw [String.utf8ByteSize, ← String.utf8Encode_toList, List.utf8Encode, List.size_toByteArray,
    encode]

theorem zeroByte {n : Nat} (small : n < 256) : (0 : UInt8) = UInt8.ofNat n ↔ n = 0 := by
  rw [← UInt8.toNat_inj, byteVal small]
  exact eq_comm

theorem zeroWritten (c : Char) : 0 ∈ String.utf8EncodeChar c ↔ c = '\x00' := by
  have same : c = '\x00' ↔ c.val.toNat = 0 := by
    rw [Char.ext_iff, ← UInt32.toNat_inj]
    rfl
  have valid : c.val.toNat.isValidChar := c.valid
  rw [same]
  unfold String.utf8EncodeChar
  dsimp only
  generalize c.val.toNat = v at valid
  unfold Nat.isValidChar at valid
  by_cases one : v ≤ 0x7F
  · rw [if_pos one, List.mem_singleton, zeroByte (by omega)]
  rw [if_neg one]
  split
  · simp only [List.mem_cons, List.not_mem_nil, or_false]
    rw [zeroByte (by omega), zeroByte (by omega)]
    omega
  split
  · simp only [List.mem_cons, List.not_mem_nil, or_false]
    rw [zeroByte (by omega), zeroByte (by omega), zeroByte (by omega)]
    omega
  · simp only [List.mem_cons, List.not_mem_nil, or_false]
    rw [zeroByte (by omega), zeroByte (by omega), zeroByte (by omega), zeroByte (by omega)]
    omega

theorem zeroEncoded (s : String) : 0 ∈ encode s ↔ '\x00' ∈ s.toList := by
  simp [encode, List.mem_flatMap, zeroWritten]

end VmBridge.Text.Utf8
