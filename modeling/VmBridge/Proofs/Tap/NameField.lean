import VmBridge.Proofs.Tap.Steps
import VmBridge.Proofs.Text.Utf8
/-! The name of an interface on its way to the driver. A name that breaks a rule opens nothing; any
other fills a part of the field and leaves zeros after it, so that it is read back whole. -/
namespace VmBridge.Tap
open Text (Bytes)

structure Rule where
  breaks : String → Bool
  reason : String

def barred : List Char := ['/', ' ', '\t', '\n', '\x0b', '\x0c', '\r']

def lengthRule : Rule where
  breaks name := name.utf8ByteSize < 1 || 15 < name.utf8ByteSize
  reason := "interface name too long or short"

def characterRule : Rule where
  breaks name := barred.any (name.toList.contains ·)
  reason := "interface name contains an invalid character"

def nulRule : Rule where
  breaks name := name.toList.contains '\x00'
  reason := "interface name contains a NUL byte"

def brokenRule? (name : String) : Option Rule :=
  [lengthRule, characterRule, nulRule].find? (·.breaks name)

structure Accepted (name : String) : Prop where
  long : 1 ≤ name.utf8ByteSize
  short : name.utf8ByteSize ≤ 15
  clean : ∀ c ∈ '\x00' :: barred, c ∉ name.toList

def overlaid : Bytes → Bytes → Bytes
  | [], _ => []
  | field, [] => field
  | _ :: field, b :: bytes => b :: overlaid field bytes

section Rules

theorem barredForbidden (c : Char) : isForbidden c = true ↔ c ∈ barred := by
  simp [isForbidden, barred, or_assoc]

theorem lengthBroken (name : String) :
    (nameField ≤ (Text.Utf8.encode name).length ∨ Text.Utf8.encode name = []) ↔
      lengthRule.breaks name = true := by
  have empty : Text.Utf8.encode name = [] ↔ name.utf8ByteSize = 0 := by
    rw [← Text.Utf8.encodeLength, List.length_eq_zero_iff]
  rw [empty, Text.Utf8.encodeLength]
  simp only [lengthRule, nameField, Bool.or_eq_true, decide_eq_true_eq]
  omega

theorem characterBroken (name : String) :
    name.toList.any isForbidden = true ↔ characterRule.breaks name = true := by
  simp only [characterRule, List.any_eq_true, barredForbidden, List.contains_iff_mem]
  exact ⟨fun ⟨c, held, bad⟩ => ⟨c, bad, held⟩, fun ⟨c, bad, held⟩ => ⟨c, held, bad⟩⟩

theorem nulBroken (name : String) :
    name.toList.contains '\x00' = true ↔ nulRule.breaks name = true := Iff.rfl

theorem nameBytesRules (name : String) : nameBytes name = match brokenRule? name with
    | some rule => .error (.interfaceName name rule.reason)
    | none => .ok (Text.Utf8.encode name) := by
  unfold nameBytes brokenRule?
  simp only [lengthBroken, characterBroken, nulBroken, List.find?_cons]
  cases lengthRule.breaks name with
  | true => rfl
  | false =>
    cases characterRule.breaks name with
    | true => rfl
    | false => cases nulRule.breaks name <;> rfl

theorem acceptedUnbroken (name : String) : brokenRule? name = none ↔ Accepted name := by
  simp only [brokenRule?, List.find?_eq_none, List.forall_mem_cons, List.not_mem_nil,
    false_implies, implies_true, and_true, lengthRule, characterRule, nulRule, Bool.or_eq_true,
    decide_eq_true_eq, List.any_eq_true, List.contains_iff_mem]
  constructor
  · rintro ⟨size, clean, whole⟩
    exact ⟨by omega, by omega, List.forall_mem_cons.mpr
      ⟨whole, fun c bad held => clean ⟨c, bad, held⟩⟩⟩
  · rintro ⟨long, short, clean⟩
    obtain ⟨whole, clean⟩ := List.forall_mem_cons.mp clean
    exact ⟨by omega, fun ⟨c, bad, held⟩ => clean c bad held, whole⟩

end Rules

section Field

theorem overlaidZeros (bytes : Bytes) (n : Nat) (fits : bytes.length ≤ n) :
    overlaid (List.replicate n 0) bytes = bytes ++ List.replicate (n - bytes.length) 0 := by
  induction bytes generalizing n with
  | nil => cases n <;> rfl
  | cons b bytes ih =>
    cases n with
    | zero => cases fits
    | succ n =>
      rw [List.length_cons, Nat.add_sub_add_right, List.replicate_succ, List.cons_append]
      exact congrArg (b :: ·) (ih n (Nat.le_of_succ_le_succ fits))

theorem frontRead {bytes : Bytes} {zeros : Nat} (whole : 0 ∉ bytes) (closed : 0 < zeros) :
    (bytes ++ List.replicate zeros 0).takeWhile (· ≠ 0) = bytes := by
  have front : ∀ b ∈ bytes, decide (b ≠ 0) = true := fun b held =>
    decide_eq_true fun zero => whole (zero ▸ held)
  obtain ⟨more, rfl⟩ := Nat.exists_eq_succ_of_ne_zero (Nat.ne_of_gt closed)
  rw [List.takeWhile_append_of_pos front, List.replicate_succ,
    List.takeWhile_cons_of_neg (by simp), List.append_nil]

structure NameField (name : String) (field : Bytes) : Prop where
  laid : field = overlaid (List.replicate 16 0) (Text.Utf8.encode name)
  wide : field.length = 16
  closed : ∃ zeros, 0 < zeros ∧ field = Text.Utf8.encode name ++ List.replicate zeros 0
  whole : Text.Utf8.decode? (field.takeWhile (· ≠ 0)) = some name

theorem acceptedField {name : String} (h : Accepted name) :
    NameField name (padded (Text.Utf8.encode name)) := by
  have fits : (Text.Utf8.encode name).length ≤ 15 := Text.Utf8.encodeLength name ▸ h.short
  have room : 0 < nameField - (Text.Utf8.encode name).length := by
    simp only [nameField]
    omega
  have nul : 0 ∉ Text.Utf8.encode name := fun held =>
    h.clean '\x00' List.mem_cons_self ((Text.Utf8.zeroEncoded name).mp held)
  refine ⟨(overlaidZeros _ 16 (by omega)).symm, paddedLength ?_, ⟨_, room, rfl⟩, ?_⟩
  · simp only [nameField]
    omega
  · rw [padded, frontRead nul room, Text.Utf8.decodeEncode]

theorem fieldNames {name other : String} {field : Bytes} (h : NameField name field)
    (h' : NameField other field) : other = name :=
  Option.some.inj (h'.whole.symm.trans h.whole)

end Field

section Attach
variable {κ σ : Type} (d : Driver κ σ) (device : Bytes) (name : String) (s : σ)

structure Attaching (ran : Ran κ σ Control) : Prop where
  opened : Accepted name ↔
    ∃ requests, Trace.calls ran.trace = d.recorded (.opening device) :: requests
  refused : ¬ Accepted name → ∃ rule, brokenRule? name = some rule ∧
    ran = ⟨.error (.interfaceName name rule.reason), s, []⟩
  unopened : ∀ cause, Accepted name → d.openDevice device = some cause →
    ran.result = .error (.tapOpen device cause) ∧
      Trace.calls ran.trace = [d.recorded (.opening device)]
  issued : Accepted name → d.openDevice device = none → ∃ field, NameField name field ∧
    Trace.calls ran.trace =
      [d.recorded (.opening device), d.recorded (.request (.attach field (0x0002 + 0x1000)))]

variable {name}

theorem attachBroken {rule : Rule} (broken : brokenRule? name = some rule) :
    (Control.attach d device name).run s = ⟨.error (.interfaceName name rule.reason), s, []⟩ := by
  unfold Control.attach
  rw [nameBytesRules, broken]
  rfl

theorem acceptedBytes (accepted : Accepted name) :
    nameBytes name = .ok (Text.Utf8.encode name) := by
  rw [nameBytesRules, (acceptedUnbroken name).mpr accepted]

theorem attachedCalls {seen : List (Effect κ)} {result : Except Fault Control} {s' : σ}
    (run : Act.Yields Effect.unlogged? (Control.attach d device name) s seen result s') :
    Trace.calls ((Control.attach d device name).run s).trace = Trace.calls seen := by
  rw [← Trace.callsUnlogged, Trace.unlogged, run.seen]

theorem attachAttaching (name : String) :
    Attaching d device name s ((Control.attach d device name).run s) := by
  by_cases accepted : Accepted name
  · have named := acceptedBytes accepted
    cases answer : d.openDevice device with
    | some cause =>
      have run := attachUnopened d device s named answer
      have calls : _ = [d.recorded (.opening device)] := attachedCalls d device s run
      exact {
        opened := ⟨fun _ => ⟨_, calls⟩, fun _ => accepted⟩
        refused := absurd accepted
        unopened := fun _ _ same => by
          cases answer.symm.trans same
          exact ⟨run.result, calls⟩
        issued := fun _ opens => by cases answer.symm.trans opens }
    | none =>
      have run := attachYields d device s named answer
      have calls : _ = [d.recorded (.opening device), _] := attachedCalls d device s run
      exact {
        opened := ⟨fun _ => ⟨_, calls⟩, fun _ => accepted⟩
        refused := absurd accepted
        unopened := fun _ _ refuses => by cases answer.symm.trans refuses
        issued := fun _ _ => ⟨_, acceptedField accepted, calls⟩ }
  · obtain ⟨rule, broken⟩ := Option.ne_none_iff_exists'.mp
      (mt (acceptedUnbroken name).mp accepted)
    have run := attachBroken d device s broken
    exact {
      opened := ⟨fun kept => absurd kept accepted, fun ⟨_, calls⟩ => by
        rw [run] at calls
        cases calls⟩
      refused := fun _ => ⟨rule, broken, run⟩
      unopened := fun _ kept => absurd kept accepted
      issued := fun kept => absurd kept accepted }

/-- A name that keeps every rule is opened for, and asked for in a field of its own; any other ends
with the first rule that it breaks, and nothing is opened for it. -/
theorem attachNamesDevice (d : Driver κ σ) (device : Bytes) (name : String) (s : σ) :
    Attaching d device name s ((Control.attach d device name).run s) ∧
      ∀ other field, NameField name field → NameField other field → other = name :=
  ⟨attachAttaching d device s name, fun _ _ => fieldNames⟩

end Attach

end VmBridge.Tap
