import VmBridge.Toml.Number
/-! Dates and times. Only days of the calendar and times of the clock are read; a minute may
have a leap second. -/
namespace VmBridge.Toml

def fixedDigits (count : Nat) : Reader Nat := fun cs =>
  let ds := cs.take count
  if ds.length = count ∧ ds.all isDecimal then some (numberOf 10 ds, cs.drop count) else none

def within (low high : Nat) (r : Reader Nat) : Reader Nat := fun cs =>
  (r cs).filter fun (n, _) => low ≤ n && n ≤ high

def isLeap (year : Nat) : Bool := year % 4 = 0 && (year % 100 != 0 || year % 400 = 0)

def daysIn (year month : Nat) : Nat :=
  if month = 2 then if isLeap year then 29 else 28
  else if month = 4 ∨ month = 6 ∨ month = 9 ∨ month = 11 then 30
  else 31

def expectChar (c : Char) : List Char → Option (List Char)
  | d :: rest => if d = c then some rest else none
  | [] => none

def date : List Char → Option (List Char) := fun cs => do
  let (year, cs) ← fixedDigits 4 cs
  let cs ← expectChar '-' cs
  let (month, cs) ← within 1 12 (fixedDigits 2) cs
  let cs ← expectChar '-' cs
  let (_, cs) ← within 1 (daysIn year month) (fixedDigits 2) cs
  some cs

def hourMinute (cs : List Char) : Option (List Char) := do
  let (_, cs) ← within 0 23 (fixedDigits 2) cs
  let cs ← expectChar ':' cs
  let (_, cs) ← within 0 59 (fixedDigits 2) cs
  some cs

def secondFraction (cs : List Char) : List Char :=
  match cs with
  | '.' :: c :: rest => if isDecimal c then rest.dropWhile isDecimal else cs
  | cs => cs

def time (cs : List Char) : Option (List Char) := do
  let cs ← hourMinute cs
  let cs ← expectChar ':' cs
  let (_, cs) ← within 0 60 (fixedDigits 2) cs
  some (secondFraction cs)

def offset (cs : List Char) : List Char :=
  match cs with
  | 'Z' :: rest => rest
  | 'z' :: rest => rest
  | '+' :: rest => (hourMinute rest).getD cs
  | '-' :: rest => (hourMinute rest).getD cs
  | cs => cs

def isDelimiter (c : Char) : Bool := c = 'T' || c = 't' || c = ' '

def timeOfDay (cs : List Char) : List Char :=
  match cs with
  | c :: rest => if isDelimiter c then ((time rest).map offset).getD cs else cs
  | [] => []

def datetimeEnd? (cs : List Char) : Option (List Char) :=
  match date cs with
  | some rest => some (timeOfDay rest)
  | none => time cs

def datetime : Reader Value := fun cs =>
  (datetimeEnd? cs).map fun rest =>
    (.datetime (String.ofList (cs.take (cs.length - rest.length))), rest)

end VmBridge.Toml
