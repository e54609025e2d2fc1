import VmBridge.Text.Ascii
import VmBridge.Text.Blank
/-! The spellings of an adapter's GUID: with or without braces, with blanks around them, in
either case. -/
namespace VmBridge.Sharing

def trimEndChars (c : Char) (cs : List Char) : List Char :=
  (cs.reverse.dropWhile (· = c)).reverse

def bareGuid (s : String) : List Char :=
  (trimEndChars '}' ((Text.trimChars s.toList).dropWhile (· = '{'))).map Char.toLower

def sameGuid (a b : String) : Bool := bareGuid a = bareGuid b

theorem sameGuidRefl (a : String) : sameGuid a a = true := by simp [sameGuid]

theorem sameGuidComm (a b : String) : sameGuid a b = sameGuid b a := by
  simp only [sameGuid, decide_eq_decide]
  exact eq_comm

theorem sameGuidTrans {a b c : String} (h : sameGuid a b = true) (h' : sameGuid b c = true) :
    sameGuid a c = true := by
  simp only [sameGuid, decide_eq_true_eq] at *
  exact h.trans h'

end VmBridge.Sharing
