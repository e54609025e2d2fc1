import VmBridge.Programs.Escape
/-! Printing arguments with a blank between them: the program, and the command of the same
name that shells have built in. -/
namespace VmBridge.Programs
open Text (Bytes)

def echoEscapes : Escapes := ⟨true, true, true⟩

def shellEchoEscapes : Escapes := ⟨true, false, true⟩

structure EchoStyle where
  newline : Bool := true
  escapes : Bool := false
  deriving DecidableEq, Repr

def isEchoOption (word : String) : Bool :=
  match word.toList with
  | '-' :: c :: rest => (c :: rest).all (['n', 'e', 'E'].contains ·)
  | _ => false

def EchoStyle.letter (s : EchoStyle) : Char → EchoStyle
  | 'n' => { s with newline := false }
  | 'e' => { s with escapes := true }
  | 'E' => { s with escapes := false }
  | _ => s

def echoStyle (s : EchoStyle) : List String → EchoStyle × List String
  | [] => (s, [])
  | word :: rest =>
    if isEchoOption word then echoStyle (word.toList.foldl EchoStyle.letter s) rest
    else (s, word :: rest)

def printed (escapes : Escapes) (text : String) (newline : Bool) : Bytes :=
  let (bytes, stopped) := escapes.read text.toList
  if stopped ∨ ¬ newline then bytes else bytes ++ [0x0A]

def echo (args : List String) : Bytes :=
  let (style, words) := echoStyle {} args
  let text := " ".intercalate words
  if style.escapes then printed echoEscapes (Text.octetText text) style.newline
  else Text.Utf8.encode text ++ (if style.newline then [0x0A] else [])

def shellEcho : List String → Bytes
  | "-n" :: words => printed shellEchoEscapes (" ".intercalate words) false
  | words => printed shellEchoEscapes (" ".intercalate words) true

end VmBridge.Programs
