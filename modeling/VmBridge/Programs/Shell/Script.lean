/-! Scripts as trees. A word is a list of parts, since quoting decides later which parts of
it are split; commands are made of words, and scripts of commands. -/
namespace VmBridge.Programs.Shell

inductive Stead where
  | fallback
  | assigned
  | refusal
  | kept
  deriving DecidableEq, Repr

inductive Direction where
  | read
  | write
  | overwrite
  | append
  | both
  | copy
  | text
  deriving DecidableEq, Repr

structure Redirect (ω : Type) where
  descriptor : Nat
  direction : Direction
  target : ω

structure Simple (ω : Type) where
  assignments : List (String × ω) := []
  words : List ω := []
  redirects : List (Redirect ω) := []
  line : Nat := 1

mutual

inductive Part where
  | text (cs : List Char) (quoted : Bool)
  | value (name : String) (use : Use) (quoted : Bool)
  | sum (terms : List Part) (quoted : Bool)
  | output (script : Script) (quoted : Bool)

inductive Use where
  | plain
  | size
  | stead (kind : Stead) (emptyIsMissing : Bool) (word : List Part)
  | trimmed (atEnd longest : Bool) (pattern : List Part)
  | unknown

inductive Script where
  | nothing
  | simple (c : Simple (List Part))
  | inTurn (first second : Script)
  | both (first second : Script)
  | either (first second : Script)
  | negated (script : Script)
  | piped (first second : Script)
  | choice (condition yes no : Script)
  | loop (wanted : Bool) (condition body : Script)
  | each (name : String) (words : List (List Part)) (body : Script)
  | branches (subject : List Part) (choices : List (List (List Part) × Script))
  | redirected (script : Script) (redirects : List (Redirect (List Part)))
  | apart (script : Script)
  | aside (script : Script)
  | function (name : String) (line : Nat) (body : Script)

end

abbrev Word := List Part

instance : Inhabited Script := ⟨.nothing⟩

def Script.isApart : Script → Bool
  | .apart _ => true
  | _ => false

def plainText? : Word → Option (List Char)
  | [] => some []
  | .text cs false :: rest => (plainText? rest).map (cs ++ ·)
  | _ => none

def isNameStart (c : Char) : Bool := c.isAlpha || c = '_'
def isNameChar (c : Char) : Bool := c.isAlphanum || c = '_'

def isName : List Char → Bool
  | [] => false
  | c :: rest => isNameStart c && rest.all isNameChar

def assignment? : Word → Option (String × Word)
  | .text cs false :: rest =>
    match cs.dropWhile (· ≠ '=') with
    | [] => none
    | _ :: value =>
      let name := cs.takeWhile (· ≠ '=')
      if isName name then
        some (String.ofList name, if value = [] then rest else .text value false :: rest)
      else none
  | _ => none

end VmBridge.Programs.Shell
