import VmBridge.CommandLine.Options
/-! Reading the arguments of the verb tool: options, then a verb, then its operands. After
the verb only help can be asked for, and `--` makes all that follows operands. -/
namespace VmBridge.CommandLine
open Text (Bytes)

structure VerbCall where
  options : Options
  verb : Verb
  deriving DecidableEq, Repr, Inhabited

def takeOperand (kind : Verb.Kind) (taken : List String) (bytes : Bytes) :
    Except Ending (List String) :=
  if kind.most ≤ taken.length then .error .refused
  else
    match Text.Utf8.decode? bytes with
    | some operand => .ok (taken ++ [operand])
    | none => .error .refused

def readPlainly (kind : Verb.Kind) (taken : List String) : List Bytes → Except Ending (List String)
  | [] => .ok taken
  | bytes :: rest =>
    match takeOperand kind taken bytes with
    | .ok taken' => readPlainly kind taken' rest
    | .error e => .error e

def asksHelp : Word → Bool
  | .long name none => named name "help"
  | .cluster letters => letters.head? = some (letter 'h')
  | _ => false

def readOperands (kind : Verb.Kind) (taken : List String) :
    List Bytes → Except Ending (List String)
  | [] => .ok taken
  | arg :: rest =>
    match Word.read arg with
    | .plain bytes =>
      match takeOperand kind taken bytes with
      | .ok taken' => readOperands kind taken' rest
      | .error e => .error e
    | .escape => readPlainly kind taken rest
    | word => .error (if asksHelp word then .help (some kind) else .refused)

def readVerb (kind : Verb.Kind) (args : List Bytes) : Except Ending Verb :=
  match readOperands kind [] args with
  | .ok operands =>
    match kind.fill? operands with
    | some verb => .ok verb
    | none => .error .refused
  | .error e => .error e

def kindOf? (bytes : Bytes) : Option Verb.Kind :=
  (Text.Utf8.decode? bytes).bind Verb.Kind.ofWord?

def withoutVerb (o : Options) (waiting : Option Bytes) : Ending :=
  if o = {} ∧ waiting = none then .bare else .refused

/-- The verb's operands are read before the value that waits in front of the verb is taken up,
so help for the verb comes before a complaint about the value. -/
def callOf (o : Options) (waiting : Option Bytes) (kind : Verb.Kind) (args : List Bytes) :
    Except Ending VerbCall :=
  match readVerb kind args with
  | .ok verb => (o.settle waiting).map (⟨·, verb⟩)
  | .error e => .error e

def readVerbCall (o : Options) (waiting : Option Bytes) : List Bytes → Except Ending VerbCall
  | [] => .error (withoutVerb o waiting)
  | arg :: rest =>
    match Word.read arg with
    | .plain bytes =>
      match kindOf? bytes with
      | some kind => callOf o waiting kind rest
      | none => .error .refused
    | .escape => .error (if rest = [] then withoutVerb o waiting else .refused)
    | .long name value =>
      match o.take waiting (readLong true name value rest) with
      | .ok o' =>
        let r := readLong true name value rest
        readVerbCall o' r.waiting r.rest
      | .error e => .error e
    | .cluster letters =>
      match o.take waiting (readCluster letters rest) with
      | .ok o' =>
        let r := readCluster letters rest
        readVerbCall o' r.waiting r.rest
      | .error e => .error e
termination_by args => args.length
decreasing_by
  · have := readLongLength true name value rest
    simp only [List.length_cons]
    omega
  · have := readClusterLength letters rest
    simp only [List.length_cons]
    omega

def VerbCall.ofArgv (argv : List Bytes) : Except Ending VerbCall :=
  readVerbCall {} none argv.tail

end VmBridge.CommandLine
