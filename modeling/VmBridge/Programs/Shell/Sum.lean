import VmBridge.Programs.Number
import VmBridge.Programs.Shell.Script
/-! Sums in double parentheses: whole numbers of 64 bits, names that hold them, and the
operators, which bind in levels. A name may be given a value on the way. -/
namespace VmBridge.Programs.Shell

inductive Symbol where
  | number (n : Int)
  | name (s : String)
  | sign (s : String)
  | unknown
  deriving DecidableEq, Repr

inductive Sum where
  | number (n : Int)
  | name (s : String)
  | single (sign : String) (a : Sum)
  | double (sign : String) (a b : Sum)
  | choice (condition a b : Sum)
  | put (name : String) (sign : Option String) (a : Sum)
  | broken (reason : String)
  | cut (a : Sum) (reason : String)
  deriving DecidableEq, Repr

def Sum.flaw? : Sum → Option String
  | .number _ => none
  | .name _ => none
  | .single _ a => a.flaw?
  | .double _ a b => a.flaw? <|> b.flaw?
  | .choice condition a b => condition.flaw? <|> a.flaw? <|> b.flaw?
  | .put _ _ a => a.flaw?
  | .broken reason => some reason
  | .cut a reason => a.flaw? <|> some reason

def wrapped (n : Int) : Int := Int.bmod n 0x10000000000000000

def signs : List (List Char) := [
  "<<=", ">>=", "<<", ">>", "<=", ">=", "==", "!=", "&&", "||", "+=", "-=", "*=", "/=", "%=",
  "&=", "|=", "^=", "<", ">", "=", "+", "-", "*", "/", "%", "&", "|", "^", "!", "~", "(", ")",
  "?", ":"].map String.toList

def symbols : Nat → List Char → List Symbol
  | 0, _ => []
  | _ + 1, [] => []
  | fuel + 1, c :: rest =>
    if c = ' ' ∨ c = '\t' ∨ c = '\n' then symbols fuel rest
    else if c.isDigit then
      let (n, left) := numberFrom (c :: rest)
      .number (clamped n) :: symbols fuel left
    else if isNameStart c then
      .name (String.ofList ((c :: rest).takeWhile isNameChar)) ::
        symbols fuel (rest.dropWhile isNameChar)
    else
      match signs.find? (·.isPrefixOf (c :: rest)) with
      | some s => .sign (String.ofList s) :: symbols fuel ((c :: rest).drop s.length)
      | none => [.unknown]

def levels : List (List String) := [
  ["*", "/", "%"], ["+", "-"], ["<<", ">>"], ["<", "<=", ">", ">="], ["==", "!="], ["&"], ["^"],
  ["|"], ["&&"], ["||"]]

def puts : List (String × Option String) := [
  ("=", none), ("+=", some "+"), ("-=", some "-"), ("*=", some "*"), ("/=", some "/"),
  ("%=", some "%"), ("<<=", some "<<"), (">>=", some ">>"), ("&=", some "&"), ("|=", some "|"),
  ("^=", some "^")]

def Sum.noOperand : Sum := .broken "expecting primary"

mutual

def readPut : Nat → List Symbol → Sum × List Symbol
  | 0, _ => (.noOperand, [])
  | fuel + 1, ss =>
    match ss with
    | .name s :: .sign m :: rest =>
      match puts.find? (·.1 = m) with
      | some entry =>
        let (a, rest) := readPut fuel rest
        (.put s entry.2 a, rest)
      | none => readCondition fuel ss
    | _ => readCondition fuel ss

def readCondition : Nat → List Symbol → Sum × List Symbol
  | 0, _ => (.noOperand, [])
  | fuel + 1, ss =>
    match readLevel fuel levels.reverse ss with
    | (condition, .sign "?" :: rest) =>
      match readPut fuel rest with
      | (a, .sign ":" :: rest) =>
        let (b, rest) := readCondition fuel rest
        (.choice condition a b, rest)
      | (a, _) => (.choice condition a (.broken "expecting ':'"), [])
    | found => found

def readLevel : Nat → List (List String) → List Symbol → Sum × List Symbol
  | 0, _, _ => (.noOperand, [])
  | fuel + 1, [], ss => readOperand fuel ss
  | fuel + 1, level :: tighter, ss =>
    let (a, rest) := readLevel fuel tighter ss
    readOnto fuel level tighter a rest

def readOnto : Nat → List String → List (List String) → Sum → List Symbol → Sum × List Symbol
  | 0, _, _, a, _ => (.cut a "expecting primary", [])
  | fuel + 1, level, tighter, a, ss =>
    match ss with
    | .sign m :: rest =>
      if level.contains m then
        let (b, rest) := readLevel fuel tighter rest
        readOnto fuel level tighter (.double m a b) rest
      else (a, ss)
    | _ => (a, ss)

def readOperand : Nat → List Symbol → Sum × List Symbol
  | 0, _ => (.noOperand, [])
  | fuel + 1, ss =>
    match ss with
    | .number n :: rest => (.number n, rest)
    | .name s :: rest => (.name s, rest)
    | .sign "(" :: rest =>
      match readPut fuel rest with
      | (a, .sign ")" :: rest) => (a, rest)
      | (a, _) => (.cut a "expecting ')'", [])
    | .sign m :: rest =>
      if ["+", "-", "!", "~"].contains m then
        let (a, rest) := readOperand fuel rest
        (.single m a, rest)
      else (.noOperand, [])
    | _ => (.noOperand, [])

end

def truth (b : Bool) : Int := if b then 1 else 0

def bits (n : Int) : Nat := (n % 0x10000000000000000).toNat

def singled (sign : String) (a : Int) : Int :=
  match sign with
  | "-" => wrapped (-a)
  | "!" => truth (a = 0)
  | "~" => -a - 1
  | _ => a

def doubled (sign : String) (a b : Int) : Except String Int :=
  match sign with
  | "*" => .ok (wrapped (a * b))
  | "/" => if b = 0 then .error "division by zero" else .ok (wrapped (a.tdiv b))
  | "%" => if b = 0 then .error "division by zero" else .ok (a.tmod b)
  | "+" => .ok (wrapped (a + b))
  | "-" => .ok (wrapped (a - b))
  | "<<" => .ok (wrapped (a * Int.pow 2 (bits b % 64)))
  | ">>" => .ok (a / Int.pow 2 (bits b % 64))
  | "<" => .ok (truth (a < b))
  | "<=" => .ok (truth (a ≤ b))
  | ">" => .ok (truth (b < a))
  | ">=" => .ok (truth (b ≤ a))
  | "==" => .ok (truth (a = b))
  | "!=" => .ok (truth (a ≠ b))
  | "&" => .ok (wrapped (bits a &&& bits b : Nat))
  | "^" => .ok (wrapped (bits a ^^^ bits b : Nat))
  | _ => .ok (wrapped (bits a ||| bits b : Nat))

inductive SumFault where
  | unfit (reason : String)
  | held (text : String)
  deriving DecidableEq, Repr

abbrev Puts := List (String × Int)

def Sum.passed (a : Sum) : Except SumFault Unit :=
  match a.flaw? with
  | some reason => .error (.unfit reason)
  | none => .ok ()

def Sum.value (table : String → Except String Int) :
    Sum → Puts → Except SumFault (Int × Puts)
  | .number n, given => .ok (n, given)
  | .name s, given => do
    let n ← look s given
    .ok (n, given)
  | .single sign a, given => do
    let (n, given) ← a.value table given
    .ok (singled sign n, given)
  | .double sign a b, given => do
    let (x, given) ← a.value table given
    if sign = "&&" ∧ x = 0 then
      b.passed
      .ok (0, given)
    else if sign = "||" ∧ x ≠ 0 then
      b.passed
      .ok (1, given)
    else
      let (y, given) ← b.value table given
      if sign = "&&" ∨ sign = "||" then .ok (truth (y ≠ 0), given)
      else
        let n ← (doubled sign x y).mapError .unfit
        .ok (n, given)
  | .choice condition a b, given => do
    let (x, given) ← condition.value table given
    if x = 0 then
      a.passed
      b.value table given
    else
      let result ← a.value table given
      b.passed
      .ok result
  | .put s sign a, given => do
    let (n, given) ← a.value table given
    match sign with
    | none => .ok (n, (s, n) :: given)
    | some m => do
      let old ← look s given
      let n ← (doubled m old n).mapError .unfit
      .ok (n, (s, n) :: given)
  | .broken reason, _ => .error (.unfit reason)
  | .cut a reason, given => do
    let _ ← a.value table given
    .error (.unfit reason)
where
  look (s : String) (given : Puts) : Except SumFault Int :=
    match given.find? (·.1 = s) with
    | some entry => .ok entry.2
    | none => (table s).mapError .held

def evaluate (table : String → Except String Int) (cs : List Char) :
    Except SumFault (Int × Puts) := do
  let ss := symbols cs.length cs
  let (sum, rest) := readPut (16 * ss.length + 16) ss
  let result ← sum.value table []
  if rest.isEmpty then .ok result else .error (.unfit "expecting EOF")

end VmBridge.Programs.Shell
