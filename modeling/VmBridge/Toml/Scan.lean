/-! Blanks, line ends and comments. Every reader takes what is left of the text and gives
what is left after it. -/
namespace VmBridge.Toml

abbrev Reader (α : Type) := List Char → Option (α × List Char)

def isWs (c : Char) : Bool := c = ' ' || c = '\t'

def isPlain (c : Char) : Bool := c = '\t' || (' ' ≤ c && c ≤ '~') || '\x80' ≤ c

def skipWs (cs : List Char) : List Char := cs.dropWhile isWs

def newline? : List Char → Option (List Char)
  | '\n' :: rest => some rest
  | '\r' :: '\n' :: rest => some rest
  | _ => none

def skipComment : List Char → List Char
  | '#' :: rest => rest.dropWhile isPlain
  | cs => cs

def lineEnd? (cs : List Char) : Option (List Char) :=
  match skipComment (skipWs cs) with
  | [] => some []
  | rest => newline? rest

theorem newlineLength {cs rest : List Char} (h : newline? cs = some rest) :
    rest.length < cs.length := by
  unfold newline? at h
  split at h
  · simp_all
  · simp only [Option.some.injEq] at h
    subst h
    simp only [List.length_cons]
    omega
  · contradiction

theorem skipWsLength (cs : List Char) : (skipWs cs).length ≤ cs.length :=
  (List.dropWhile_sublist isWs).length_le

theorem skipCommentLength (cs : List Char) : (skipComment cs).length ≤ cs.length := by
  unfold skipComment
  split
  next rest =>
    have : (rest.dropWhile isPlain).length ≤ rest.length :=
      (List.dropWhile_sublist isPlain).length_le
    simp only [List.length_cons]
    omega
  · exact Nat.le_refl _

def skipGaps (cs : List Char) : List Char :=
  match _h : newline? (skipComment (skipWs cs)) with
  | some rest => skipGaps rest
  | none => skipWs cs
termination_by cs.length
decreasing_by
  have a := newlineLength _h
  have b := skipCommentLength (skipWs cs)
  have c := skipWsLength cs
  omega

def skipBreaks : List Char → List Char
  | '\r' :: '\n' :: rest => skipBreaks rest
  | c :: rest => if isWs c || c = '\n' then skipBreaks rest else c :: rest
  | [] => []

theorem skipBreaksLength (cs : List Char) : (skipBreaks cs).length ≤ cs.length := by
  fun_induction skipBreaks cs with
  | case1 rest ih => simp only [List.length_cons]; omega
  | case2 c rest _ h ih => simp only [List.length_cons]; omega
  | case3 => exact Nat.le_refl _
  | case4 => exact Nat.le_refl _

def expect (text : List Char) (cs : List Char) : Option (List Char) :=
  if text.isPrefixOf cs then some (cs.drop text.length) else none

end VmBridge.Toml
