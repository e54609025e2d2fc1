import VmBridge.Files.Tree
import VmBridge.Settings.Decode
import VmBridge.Toml.Excerpt
/-! Settings from a file. A file that was asked for must be there; the default one need not
be. -/
namespace VmBridge.Settings
open Text (Bytes)

inductive ParseFault where
  | notToml
  | misfit (text : String) (m : Misfit)
  deriving DecidableEq, Repr, Inhabited

def parse (text : String) : Except ParseFault Settings :=
  match Toml.parse? text with
  | none => .error .notToml
  | some entries => (ofEntries entries).mapError (.misfit text)

def Misfit.place? (text : String) : Misfit → Option Toml.Place
  | .unknownField name known =>
    if known = fields.map (·.name) then Toml.keyPlace? text name else none
  | _ => none

def ParseFault.message : ParseFault → String
  | notToml => "TOML parse error\n"
  | misfit text m =>
    match m.place? text with
    | some place => Toml.excerpt text place m.message
    | none => m.message ++ "\n"

inductive LoadFault where
  | unreadable (path : Bytes) (cause : IoFault)
  | unusable (path : Bytes) (cause : ParseFault)
  deriving DecidableEq, Repr, Inhabited

namespace LoadFault

def context : LoadFault → String
  | unreadable path _ => "failed to read " ++ Text.Utf8.lossy path
  | unusable path _ => "failed to parse " ++ Text.Utf8.lossy path

def cause : LoadFault → String
  | unreadable _ cause => cause.message
  | unusable _ cause => cause.message

def chain (e : LoadFault) : List String := [e.context, e.cause]
def message (e : LoadFault) : String := ": ".intercalate e.chain
def fault (e : LoadFault) : Fault := .ofChain e.chain

end LoadFault

def ofFile (tree : Files.Tree) (path : Bytes) : Except LoadFault Settings :=
  match tree.readText path with
  | .error cause => .error (.unreadable path cause)
  | .ok text => (parse text).mapError (.unusable path)

def load (tree : Files.Tree) (explicit : Option Bytes) (default : Bytes) :
    Except LoadFault Settings :=
  match explicit with
  | some path => ofFile tree path
  | none => if tree.exists default then ofFile tree default else .ok {}

end VmBridge.Settings
