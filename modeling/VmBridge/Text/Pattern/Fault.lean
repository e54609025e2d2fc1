/-! Why a text is no pattern, with the place in it that is to blame. -/
namespace VmBridge.Text.Pattern

inductive Flaw where
  | setEscape
  | setRange
  | setRangeEnd
  | setOpen
  | countInvalid
  | hexEmpty
  | hexNoCharacter
  | hexDigit
  | escapeCut
  | escapeUnknown
  | flagDangling
  | flagTwice
  | flagNegatedTwice
  | flagCut
  | flagUnknown
  | nameTwice
  | nameEmpty
  | nameCharacter
  | nameCut
  | groupOpen
  | groupUnopened
  | countOrder
  | countEmpty
  | countOpen
  | nothingToRepeat
  | borderOpen
  | borderUnknown
  | borderCut
  | propertyName
  | propertyUnknown
  | backReference
  | lookAround
  deriving DecidableEq, Repr, Inhabited

def Flaw.message : Flaw → String
  | setEscape => "invalid escape sequence found in character class"
  | setRange => "invalid character class range, the start must be <= the end"
  | setRangeEnd => "invalid range boundary, must be a literal"
  | setOpen => "unclosed character class"
  | countInvalid => "decimal literal invalid"
  | hexEmpty => "hexadecimal literal empty"
  | hexNoCharacter => "hexadecimal literal is not a Unicode scalar value"
  | hexDigit => "invalid hexadecimal digit"
  | escapeCut => "incomplete escape sequence, reached end of pattern prematurely"
  | escapeUnknown => "unrecognized escape sequence"
  | flagDangling => "dangling flag negation operator"
  | flagTwice => "duplicate flag"
  | flagNegatedTwice => "flag negation operator repeated"
  | flagCut => "expected flag but got end of regex"
  | flagUnknown => "unrecognized flag"
  | nameTwice => "duplicate capture group name"
  | nameEmpty => "empty capture group name"
  | nameCharacter => "invalid capture group character"
  | nameCut => "unclosed capture group name"
  | groupOpen => "unclosed group"
  | groupUnopened => "unopened group"
  | countOrder => "invalid repetition count range, the start must be <= the end"
  | countEmpty => "repetition quantifier expects a valid decimal"
  | countOpen => "unclosed counted repetition"
  | nothingToRepeat => "repetition operator missing expression"
  | borderOpen =>
    "special word boundary assertion is either unclosed or contains an invalid character"
  | borderUnknown =>
    "unrecognized special word boundary assertion, " ++
      "valid choices are: start, end, start-half or end-half"
  | borderCut =>
    "found either the beginning of a special word boundary or a bounded repetition " ++
      "on a \\b with an opening brace, but no closing brace"
  | propertyName => "invalid Unicode character class"
  | propertyUnknown => "Unicode property not found"
  | backReference => "backreferences are not supported"
  | lookAround => "look-around, including look-ahead and look-behind, is not supported"

structure Span where
  start : Nat
  stop : Nat
  deriving DecidableEq, Repr, Inhabited

structure Fault where
  flaw : Flaw
  span : Span
  earlier : Option Span := none
  deriving DecidableEq, Repr, Inhabited

namespace Fault

def marks (column : Nat) : List Span → String
  | [] => ""
  | s :: rest =>
    let width := max 1 (s.stop - s.start)
    "".pushn ' ' (s.start - column) ++ "".pushn '^' width ++
      marks (max column s.start + width) rest

def message (source : String) (f : Fault) : String :=
  "regex parse error:\n    " ++ source ++ "\n    " ++ marks 0 (f.earlier.toList ++ [f.span]) ++
    "\nerror: " ++ f.flaw.message

end Fault
end VmBridge.Text.Pattern
