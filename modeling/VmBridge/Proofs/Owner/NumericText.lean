import VmBridge.Owner.NumericId
import VmBridge.Programs.Number
/-! Numeric ids against the numbers that texts begin with. A text is read as an id exactly if it
opens with no blank and no minus sign, its leading number takes up all of it and lies below the id
that stands for nobody; hence every spelling of an id gives that id back. -/
namespace VmBridge.Owner
open Text (digit? takeDigits)
open Programs (isSpace signFrom numberFrom leadingNumber? clamped signed)

def onto (base v : Nat) (digits : List Nat) : Nat := digits.foldl (fun v d => v * base + d) v

section Digits
variable {base most v n : Nat} {cs : List Char} {ds : List Nat}

theorem takeDigitsAll (read : digits? base cs = some ds) (room : cs.length ≤ most) :
    takeDigits base most v cs = (onto base v ds, []) := by
  induction cs generalizing most v ds with
  | nil =>
    cases read
    cases most <;> rfl
  | cons c rest ih =>
    cases most with
    | zero => simp at room
    | succ most =>
      simp only [digits?, bind, Option.bind_eq_some_iff] at read
      obtain ⟨d, digit, later, read, last⟩ := read
      cases Option.some.inj last
      simp only [takeDigits, digit]
      exact ih read (by simpa using room)

theorem takeDigitsWhole (taken : takeDigits base most v cs = (n, [])) :
    ∃ ds, digits? base cs = some ds ∧ n = onto base v ds := by
  induction cs generalizing most v with
  | nil =>
    have same : v = n := by cases most <;> exact congrArg Prod.fst taken
    exact ⟨[], rfl, same.symm⟩
  | cons c rest ih =>
    cases most with
    | zero => cases congrArg Prod.snd taken
    | succ most =>
      simp only [takeDigits] at taken
      split at taken
      next d digit =>
        obtain ⟨ds, read, same⟩ := ih taken
        exact ⟨d :: ds, by simp [digits?, digit, read], same⟩
      next => cases congrArg Prod.snd taken

theorem wholeDigits (room : cs.length ≤ most) :
    (digits? base cs).map (value base) = some n ↔ takeDigits base most 0 cs = (n, []) := by
  constructor
  · intro read
    obtain ⟨ds, all, rfl⟩ := Option.map_eq_some_iff.mp read
    exact takeDigitsAll all room
  · intro taken
    obtain ⟨ds, read, rfl⟩ := takeDigitsWhole taken
    rw [read]
    rfl

theorem zeroFirst (some : 0 < base) (cs : List Char) :
    (digits? base ('0' :: cs)).map (value base) = (digits? base cs).map (value base) := by
  have zero : digit? base '0' = .some 0 := by simp [digit?, some]
  cases read : digits? base cs <;> simp [digits?, zero, read, value]

end Digits

def announced? (cs : List Char) : Option Nat :=
  if (announcedBase cs).2 = [] then none
  else (digits? (announcedBase cs).1 (announcedBase cs).2).map (value (announcedBase cs).1)

section Announced
variable {v : Nat} {rest : List Char}

theorem hexNumber {x : Char} (marked : x = 'x' ∨ x = 'X') :
    (if rest = [] then none else (digits? 16 rest).map (value 16)) = some v ↔
      numberFrom ('0' :: x :: rest) = (v, []) := by
  have unread : digit? 8 x = none := by rcases marked with rfl | rfl <;> decide
  have broken {most : Nat} (room : ('0' :: x :: rest).length ≤ most) :
      takeDigits 8 most 0 ('0' :: x :: rest) ≠ (v, []) := by
    rw [Ne, ← wholeDigits room, zeroFirst (by decide)]
    simp [digits?, unread]
  cases rest with
  | nil => exact ⟨fun read => by simp at read, fun taken => absurd taken (broken (Nat.le_refl 2))⟩
  | cons y rest =>
    rw [if_neg (by simp)]
    simp only [numberFrom, marked, true_and]
    split
    · exact wholeDigits (by simp)
    · rename_i unread
      have stops : digit? 16 y = none := by simpa using unread
      refine ⟨fun read => ?_, fun taken => absurd taken (broken (Nat.le_refl _))⟩
      simp [digits?, stops] at read

theorem octalNumber {c : Char} (lower : c ≠ 'x') (upper : c ≠ 'X') :
    (digits? 8 (c :: rest)).map (value 8) = some v ↔ numberFrom ('0' :: c :: rest) = (v, []) := by
  have same : numberFrom ('0' :: c :: rest) =
      takeDigits 8 ('0' :: c :: rest).length 0 ('0' :: c :: rest) := by
    cases rest with
    | nil => rfl
    | cons y rest => simp [numberFrom, lower, upper]
  rw [same, ← zeroFirst (by decide)]
  exact wholeDigits (Nat.le_refl _)

theorem decimalNumber {c : Char} (other : c ≠ '0') :
    (digits? 10 (c :: rest)).map (value 10) = some v ↔ numberFrom (c :: rest) = (v, []) := by
  have same : numberFrom (c :: rest) = takeDigits 10 (c :: rest).length 0 (c :: rest) := by
    unfold numberFrom
    split
    · rename_i first
      exact absurd (List.cons.inj first).1 other
    · rename_i first
      exact absurd (List.cons.inj first).1 other
    · rfl
  rw [same]
  exact wholeDigits (Nat.le_refl _)

theorem announcedNumber {cs : List Char} :
    announced? cs = some v ↔ cs ≠ [] ∧ numberFrom cs = (v, []) := by
  unfold announced? announcedBase
  split
  · simp [hexNumber (Or.inl rfl)]
  · simp [hexNumber (Or.inr rfl)]
  · rename_i lower upper
    simp [octalNumber lower upper]
  · rename_i others
    match cs with
    | [] => simp
    | c :: rest =>
      by_cases first : c = '0'
      · subst first
        cases rest with
        | nil =>
          have zero : digits? 10 ['0'] = some [0] := by decide
          have taken : numberFrom ['0'] = (0, []) := by decide
          simp [zero, taken, value, eq_comm]
        | cons c rest => exact absurd rfl (others c rest)
      · simp [decimalNumber first]

end Announced

def Plain (cs : List Char) : Prop := ∀ c, cs.head? = some c → isSpace c = false ∧ c ≠ '-'

theorem digitPlain {c : Char} (digit : digit? 10 c ≠ none) : isSpace c = false ∧ c ≠ '-' := by
  constructor
  · cases blank : isSpace c with
    | false => rfl
    | true =>
      simp only [isSpace, Bool.or_eq_true, Bool.and_eq_true, decide_eq_true_eq] at blank
      rcases blank with rfl | ⟨_, high⟩
      · exact absurd (by decide) digit
      · have low : ¬ 48 ≤ c.toNat ∧ ¬ 97 ≤ c.toNat ∧ ¬ 65 ≤ c.toNat := by omega
        exact absurd (by simp [digit?, low]) digit
  · rintro rfl
    exact digit (by decide)

section Signed
variable {cs : List Char} {v : Nat}

theorem naturalNumber :
    naturalOf? cs = some v ↔ withoutPlus cs ≠ [] ∧ numberFrom (withoutPlus cs) = (v, []) :=
  announcedNumber

theorem naturalPlain (read : naturalOf? cs = some v) : Plain cs := by
  intro c first
  obtain ⟨rest, rfl⟩ := List.head?_eq_some_iff.mp first
  by_cases sign : c = '+'
  · subst sign
    decide
  by_cases zero : c = '0'
  · subst zero
    decide
  have unsigned : withoutPlus (c :: rest) = c :: rest := by simp [withoutPlus, sign]
  rw [naturalNumber, unsigned, ← decimalNumber zero] at read
  refine digitPlain fun unread => ?_
  simp [digits?, unread] at read

theorem signPlain (plain : Plain cs) :
    signFrom (cs.dropWhile isSpace) = (false, withoutPlus cs) := by
  cases cs with
  | nil => rfl
  | cons c rest =>
    obtain ⟨stands, positive⟩ := plain c rfl
    rw [List.dropWhile_cons_of_neg (by simp [stands])]
    by_cases sign : c = '+'
    · subst sign
      rfl
    · simp [signFrom, withoutPlus, positive, sign]

theorem clampedSmall {n : Nat} (small : n < 0x7fffffffffffffff) :
    clamped (signed false v) = n ↔ v = n := by
  simp only [clamped, signed, Bool.false_eq_true, if_false]
  omega

theorem leadingPlain (plain : Plain cs) {n : Nat} (small : n < 0x7fffffffffffffff) :
    leadingNumber? cs = some ((n : Int), []) ↔ naturalOf? cs = some n := by
  rcases taken : numberFrom (withoutPlus cs) with ⟨v, left⟩
  have known : leadingNumber? cs = if left.length = (withoutPlus cs).length then none
      else some (clamped (signed false v), left) := by
    rw [leadingNumber?, signPlain plain]
    simp only [taken]
  rw [known, naturalNumber, taken]
  by_cases same : left.length = (withoutPlus cs).length
  · rw [if_pos same]
    refine ⟨fun read => (by cases read), fun ⟨given, read⟩ => ?_⟩
    cases read
    exact absurd (List.length_eq_zero_iff.mp same.symm) given
  · rw [if_neg same]
    constructor
    · intro read
      obtain ⟨number, rfl⟩ := Prod.mk.inj (Option.some.inj read)
      exact ⟨fun empty => same (by rw [empty]), by rw [(clampedSmall small).mp number]⟩
    · rintro ⟨_, read⟩
      cases read
      rw [(clampedSmall small).mpr rfl]

end Signed

theorem idNatural {cs : List Char} {n : Id} :
    idOfChars? cs = some n ↔ naturalOf? cs = some n.toNat ∧ n.toNat < nobody := by
  constructor
  · intro read
    refine ⟨?_, idOfCharsBelow read⟩
    obtain ⟨v, natural, rfl⟩ := Option.map_eq_some_iff.mp read
    obtain ⟨natural, below⟩ := Option.filter_eq_some_iff.mp natural
    have small : v < nobody := by simpa using below
    rw [UInt32.toNat_ofNat_of_lt' (Nat.lt_trans small (by decide)), natural]
  · rintro ⟨read, below⟩
    rw [idOfChars?, read, Option.filter_some, if_pos (by simpa using below), Option.map_some,
      UInt32.ofNat_toNat]

inductive Form where
  | decimal
  | octal (zeros : Nat)
  | hex (capitalMark : Bool) (zeros : Nat) (capital : Nat → Bool)

structure Spelling where
  plus : Bool
  form : Form

def cased (capital : Nat → Bool) (cs : List Char) : List Char :=
  cs.mapIdx fun i c => if capital i then c.toUpper else c

def Form.write (n : Nat) : Form → List Char
  | decimal => Nat.toDigits 10 n
  | octal zeros => '0' :: (List.replicate zeros '0' ++ Nat.toDigits 8 n)
  | hex capitalMark zeros capital => '0' :: (if capitalMark then 'X' else 'x') ::
    (List.replicate zeros '0' ++ cased capital (Nat.toDigits 16 n))

def Spelling.text (s : Spelling) (n : Nat) : String :=
  String.ofList ((if s.plus then ['+'] else []) ++ s.form.write n)

section Written
variable {base n : Nat}

theorem digitWritten (small : base ≤ 16) {d : Nat} (below : d < base) :
    digit? base (Nat.digitChar d) = some d := by
  have all : ∀ base ≤ 16, ∀ d < base, digit? base (Nat.digitChar d) = some d := by decide
  exact all base small d below

theorem digitsWritten (two : 1 < base) (small : base ≤ 16) (n : Nat) :
    (digits? base (Nat.toDigits base n)).map (value base) = some n := by
  induction n using Nat.strongRecOn with
  | ind n ih =>
    by_cases below : n < base
    · rw [Nat.toDigits_of_lt_base below]
      simp [digits?, digitWritten small below, value]
    · have less : n / base < n := Nat.div_lt_self (by omega) two
      obtain ⟨ds, front, whole⟩ := Option.map_eq_some_iff.mp (ih (n / base) less)
      have last : digits? base [Nat.digitChar (n % base)] = some [n % base] := by
        simp [digits?, digitWritten small (Nat.mod_lt n (by omega))]
      rw [Nat.toDigits_of_base_le two (by omega), digitsAppend, front, last]
      have split : value base (ds ++ [n % base]) = value base ds * base + n % base := by
        simp [value]
      simp [split, whole, Nat.div_add_mod']

theorem zerosWritten (some : 0 < base) (zeros : Nat) (cs : List Char) :
    (digits? base (List.replicate zeros '0' ++ cs)).map (value base) =
      (digits? base cs).map (value base) := by
  induction zeros with
  | zero => rfl
  | succ zeros ih => rw [List.replicate_succ, List.cons_append, zeroFirst some, ih]

theorem digitCased (c : Char) : digit? base c.toUpper = digit? base c := by
  unfold Char.toUpper
  split
  · rename_i small
    have low : 97 ≤ c.toNat := small.1
    have high : c.toNat ≤ 122 := small.2
    have lowered (valid) : (⟨c.val + ('A'.val - 'a'.val), valid⟩ : Char).toNat = c.toNat - 32 := by
      have shift : ('A'.val - 'a'.val).toNat = 0x100000000 - 32 := by decide
      change (c.val + ('A'.val - 'a'.val)).toNat = c.val.toNat - 32
      have low : 97 ≤ c.val.toNat := low
      have high : c.val.toNat ≤ 122 := high
      rw [UInt32.toNat_add, shift]
      omega
    have plain : ¬ (48 ≤ c.toNat ∧ c.toNat ≤ 57) := by omega
    have digit : ¬ (48 ≤ c.toNat - 32 ∧ c.toNat - 32 ≤ 57) := by omega
    have capital : ¬ (97 ≤ c.toNat - 32 ∧ c.toNat - 32 ≤ 122) := by omega
    have letter : 65 ≤ c.toNat - 32 ∧ c.toNat - 32 ≤ 90 := by omega
    have same : c.toNat - 32 - 55 = c.toNat - 87 := by omega
    simp only [digit?, lowered, if_neg digit, if_neg capital, if_pos letter, same, if_neg plain,
      if_pos (And.intro low high)]
  · rfl

theorem casedWritten (capital : Nat → Bool) (cs : List Char) :
    digits? base (cased capital cs) = digits? base cs := by
  induction cs generalizing capital with
  | nil => rfl
  | cons c rest ih =>
    have later := ih fun i => capital (i + 1)
    have first : digit? base (if capital 0 then c.toUpper else c) = digit? base c := by
      split
      · exact digitCased c
      · rfl
    unfold cased at later ⊢
    simp only [List.mapIdx_cons, digits?, first, later]

theorem firstDigit (some : 0 < n) :
    ∃ d rest, 0 < d ∧ d < 10 ∧ Nat.toDigits 10 n = Nat.digitChar d :: rest := by
  induction n using Nat.strongRecOn with
  | ind n ih =>
    by_cases below : n < 10
    · exact ⟨n, [], some, below, Nat.toDigits_of_lt_base below⟩
    · obtain ⟨d, rest, positive, small, front⟩ := ih (n / 10) (by omega) (by omega)
      refine ⟨d, rest ++ [Nat.digitChar (n % 10)], positive, small, ?_⟩
      rw [Nat.toDigits_of_base_le (by decide) (by omega), front, List.cons_append]

theorem announcedDecimal (n : Nat) : announced? (Nat.toDigits 10 n) = some n := by
  have whole : (digits? 10 (Nat.toDigits 10 n)).map (value 10) = some n :=
    digitsWritten (by decide) (by decide) n
  cases n with
  | zero => decide
  | succ n =>
    obtain ⟨d, rest, positive, small, written⟩ := firstDigit (Nat.succ_pos n)
    have first : ∀ d < 10, 0 < d → Nat.digitChar d ≠ '0' := by decide
    rw [written] at whole ⊢
    rw [announcedNumber, ← decimalNumber (first d small positive), whole]
    simp

theorem announcedOctal {cs : List Char} (some : cs ≠ [])
    (read : (digits? 8 cs).map (value 8) = .some n) : announced? ('0' :: cs) = .some n := by
  cases cs with
  | nil => exact absurd rfl some
  | cons c rest =>
    have other (x : Char) (unread : digit? 8 x = none) : c ≠ x := by
      rintro rfl
      simp [digits?, unread] at read
    rw [announcedNumber, ← octalNumber (other 'x' (by decide)) (other 'X' (by decide)), read]
    simp

theorem announcedHex {x : Char} (marked : x = 'x' ∨ x = 'X') {cs : List Char} (some : cs ≠ [])
    (read : (digits? 16 cs).map (value 16) = .some n) :
    announced? ('0' :: x :: cs) = .some n := by
  rw [announcedNumber, ← hexNumber marked, if_neg some, read]
  simp

theorem announcedForm (form : Form) (n : Nat) : announced? (form.write n) = some n := by
  cases form with
  | decimal => exact announcedDecimal n
  | octal zeros =>
    refine announcedOctal (by simp [Nat.toDigits_ne_nil]) ?_
    rw [zerosWritten (by decide), digitsWritten (by decide) (by decide)]
  | hex capitalMark zeros capital =>
    refine announcedHex (by cases capitalMark <;> simp) (by simp [cased, Nat.toDigits_ne_nil]) ?_
    rw [zerosWritten (by decide), casedWritten, digitsWritten (by decide) (by decide)]

theorem announcedUnsigned {cs : List Char} (read : announced? cs = some n) :
    withoutPlus cs = cs := by
  cases cs with
  | nil => rfl
  | cons c rest =>
    have unsigned : c ≠ '+' := by
      rintro rfl
      rw [announcedNumber, ← decimalNumber (by decide)] at read
      simp [digits?, digit?] at read
    simp [withoutPlus, unsigned]

theorem spellingNatural (spelling : Spelling) (n : Nat) :
    naturalOf? (spelling.text n).toList = some n := by
  have read := announcedForm spelling.form n
  change announced? (withoutPlus (spelling.text n).toList) = some n
  unfold Spelling.text
  rw [String.toList_ofList]
  split
  · exact read
  · rw [List.nil_append, announcedUnsigned read, read]

end Written

theorem numericIdLeading (s : String) (n : Id) : numericId? s = some n ↔ Plain s.toList ∧
    leadingNumber? s.toList = some ((n.toNat : Int), []) ∧ n.toNat ≤ 4294967294 := by
  have small : n.toNat < 0x7fffffffffffffff := Nat.lt_trans n.toNat_lt (by decide)
  have below : n.toNat < nobody ↔ n.toNat ≤ 4294967294 := Nat.lt_succ_iff
  rw [numericId?, idNatural, below]
  constructor
  · rintro ⟨read, low⟩
    have plain := naturalPlain read
    exact ⟨plain, (leadingPlain plain small).mpr read, low⟩
  · rintro ⟨plain, read, low⟩
    exact ⟨(leadingPlain plain small).mp read, low⟩

theorem numericIdSpelled (spelling : Spelling) (n : Nat) :
    (numericId? (spelling.text n)).map UInt32.toNat = if n < 4294967295 then some n else none := by
  have ceiling : nobody = 4294967295 := rfl
  rw [numericId?, idOfChars?, spellingNatural, ceiling]
  split
  · rename_i low
    rw [Option.filter_some, if_pos (decide_eq_true low), Option.map_some, Option.map_some,
      UInt32.toNat_ofNat_of_lt' (Nat.lt_trans low (by decide))]
  · rename_i high
    rw [Option.filter_some, if_neg fun yes => high (of_decide_eq_true yes)]
    rfl

/-- A text is read as an id exactly if it opens plainly and its leading number takes up all of it
below the id of nobody; and a number is read back from each of its spellings exactly below that
id. -/
theorem numericIdReads :
    (∀ (s : String) (n : Id), numericId? s = some n ↔ Plain s.toList ∧
      leadingNumber? s.toList = some ((n.toNat : Int), []) ∧ n.toNat ≤ 4294967294) ∧
    ∀ (spelling : Spelling) (n : Nat), (numericId? (spelling.text n)).map UInt32.toNat =
      if n < 4294967295 then some n else none :=
  ⟨numericIdLeading, numericIdSpelled⟩

end VmBridge.Owner
