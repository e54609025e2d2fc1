import Mathlib.Data.List.Infix
import VmBridge.Binding.Request
/-! What a path token tells of its request. Neither id is kept from holding the separator, so one
token can be cut in more than one place; but only where one inf id goes on past the other and a
separator. Inf ids without a separator leave one place to cut, whatever the device ids hold. -/
namespace VmBridge.Binding

def Joined (text : String) : Prop := ∃ front back, text = front ++ "->" ++ back

def CutLater (infId deviceId infId' deviceId' : String) : Prop :=
  ∃ between, infId' = infId ++ "->" ++ between ∧ deviceId = between ++ "->" ++ deviceId'

theorem joinedChars (front back : String) :
    (front ++ "->" ++ back).toList = front.toList ++ '-' :: '>' :: back.toList := by simp

theorem joinedInfix (text : String) : Joined text ↔ ['-', '>'] <:+: text.toList := by
  constructor
  · rintro ⟨front, back, rfl⟩
    exact ⟨front.toList, back.toList, by simp⟩
  · rintro ⟨front, back, same⟩
    refine ⟨String.ofList front, String.ofList back, String.toList_inj.mp ?_⟩
    simp [← same]

instance (text : String) : Decidable (Joined text) := decidable_of_iff _ (joinedInfix text).symm

-- The characters of the separator differ, so it does not begin inside of itself.
theorem separatorAgain {between d e : List Char}
    (same : '-' :: '>' :: d = between ++ '-' :: '>' :: e) :
    (between = [] ∧ d = e) ∨ ∃ x, between = '-' :: '>' :: x ∧ d = x ++ '-' :: '>' :: e := by
  match between with
  | [] => exact .inl ⟨rfl, by simpa using same⟩
  | [c] => simp at same
  | first :: second :: x =>
    simp only [List.cons_append, List.cons.injEq] at same
    obtain ⟨rfl, rfl, rest⟩ := same
    exact .inr ⟨x, rfl, rest⟩

theorem cutBehind {a d b e : String} {between : List Char}
    (longer : b.toList = a.toList ++ between)
    (same : '-' :: '>' :: d.toList = between ++ '-' :: '>' :: e.toList) :
    (a = b ∧ d = e) ∨ CutLater a d b e := by
  rcases separatorAgain same with ⟨rfl, rest⟩ | ⟨x, rfl, rest⟩
  · rw [List.append_nil] at longer
    exact .inl ⟨(String.toList_inj.mp longer).symm, String.toList_inj.mp rest⟩
  · refine .inr ⟨String.ofList x, String.toList_inj.mp ?_, String.toList_inj.mp ?_⟩
    · rw [joinedChars, String.toList_ofList, longer]
    · rw [joinedChars, String.toList_ofList, rest]

theorem cutLaterSame {a d b e : String} (later : CutLater a d b e) :
    pathToken a d = pathToken b e := by
  obtain ⟨between, rfl, rfl⟩ := later
  simp only [pathToken, String.append_assoc]

theorem pathTokenSame (a d b e : String) : pathToken a d = pathToken b e ↔
    (a = b ∧ d = e) ∨ CutLater a d b e ∨ CutLater b e a d := by
  constructor
  · intro same
    have chars := congrArg String.toList same
    rw [pathToken, pathToken, joinedChars, joinedChars] at chars
    rcases List.append_eq_append_iff.mp chars with ⟨between, longer, rest⟩ | ⟨between, longer, rest⟩
    · exact (cutBehind longer rest).imp_right .inl
    · rcases cutBehind longer rest with ⟨rfl, rfl⟩ | later
      · exact .inl ⟨rfl, rfl⟩
      · exact .inr (.inr later)
  · rintro (⟨rfl, rfl⟩ | later | later)
    · rfl
    · exact cutLaterSame later
    · exact (cutLaterSame later).symm

theorem cutLaterJoined {a d b e : String} (later : CutLater a d b e) : Joined b := by
  obtain ⟨between, same, _⟩ := later
  exact ⟨a, between, same⟩

theorem joinedCut {infId : String} (joined : Joined infId) (deviceId : String) :
    ∃ shorter longer, shorter ≠ infId ∧ CutLater shorter longer infId deviceId := by
  obtain ⟨front, back, rfl⟩ := joined
  refine ⟨front, back ++ "->" ++ deviceId, fun same => ?_, back, rfl, rfl⟩
  have lengths := congrArg (fun text => text.toList.length) same
  simp at lengths

/-- Two pairs of ids share a token exactly if they are one pair or one is cut at a later separator
than the other. So requests whose inf ids hold no separator are told apart by their tokens, and an
inf id that holds one shares each of its tokens with another. -/
theorem pathTokenTells :
    (∀ a b d e : String, pathToken a d = pathToken b e ↔ (a = b ∧ d = e) ∨
      (∃ x, b = a ++ "->" ++ x ∧ d = x ++ "->" ++ e) ∨
      ∃ x, a = b ++ "->" ++ x ∧ e = x ++ "->" ++ d) ∧
    (∀ r q : Request, ¬ Joined r.infId → ¬ Joined q.infId →
      (r.token = q.token ↔ r.infId = q.infId ∧ r.deviceId = q.deviceId)) ∧
    ∀ r : Request, Joined r.infId → ∃ q : Request, q.infId ≠ r.infId ∧ q.token = r.token := by
  refine ⟨fun a b d e => pathTokenSame a d b e, fun r q plain plain' => ?_, fun r joined => ?_⟩
  · rw [Request.token, Request.token, pathTokenSame]
    constructor
    · rintro (same | later | later)
      · exact same
      · exact absurd (cutLaterJoined later) plain'
      · exact absurd (cutLaterJoined later) plain
    · exact .inl
  · obtain ⟨shorter, longer, other, later⟩ := joinedCut joined r.deviceId
    exact ⟨⟨shorter, longer, r.action⟩, other, cutLaterSame later⟩

theorem halfSeparatorTold :
    let r : Request := ⟨"br-", ">->nic", .bind⟩
    let q : Request := ⟨"br", "->>->nic", .bind⟩
    ¬ Joined r.infId ∧ ¬ Joined q.infId ∧ r.token ≠ q.token := by
  intro r q
  have plain : ¬ Joined r.infId := by decide
  have plain' : ¬ Joined q.infId := by decide
  refine ⟨plain, plain', fun same => ?_⟩
  have told := (pathTokenTells.2.1 r q plain plain').mp same
  exact absurd told.1 (by decide)

end VmBridge.Binding
