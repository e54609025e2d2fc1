/-! Letters of the ASCII range without regard to case. Other characters stand for
themselves. -/
namespace VmBridge.Text

def lowered (s : String) : List Char := s.toList.map Char.toLower

def equalIgnoringCase (a b : String) : Bool := lowered a = lowered b

end VmBridge.Text
