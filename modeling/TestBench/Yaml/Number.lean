import TestBench.Double.Reading
import TestBench.Text.Lowercase
import TestBench.Yaml.Cursor

/-! Numbers in YAML: which texts are written as one, and which number a text stands for. Among the
digits underscores may stand, and numbers may be written to base sixty with colons. -/
namespace TestBench.Yaml.Number

def isDigitOrLine (c : Char) : Bool := c.isDigit || c == '_'

def unsigned : List Char → List Char
  | '-' :: cs => cs
  | '+' :: cs => cs
  | cs => cs

/-- Does a text begin with a digit, and what comes behind it and further digits and underscores? -/
def afterDigits? : List Char → Option (List Char)
  | [] => none
  | c :: cs => if c.isDigit then some (cs.dropWhile isDigitOrLine) else none

/-- An exponent that has a sign, or nothing. -/
def isExponent : List Char → Bool
  | [] => true
  | mark :: sign :: ds =>
    (mark == 'e' || mark == 'E') && (sign == '-' || sign == '+') && !ds.isEmpty &&
      ds.all Char.isDigit
  | _ => false

/-- What is left behind parts to base sixty, each a colon with one digit, or with two of which the
first is below six. -/
def afterSixties : List Char → List Char
  | ':' :: c :: d :: cs =>
    if c.isDigit && c < '6' && d.isDigit then afterSixties cs
    else if c.isDigit then afterSixties (d :: cs)
    else ':' :: c :: d :: cs
  | [':', c] => if c.isDigit then [] else [':', c]
  | cs => cs

/-- Is something left behind at least one part to base sixty? -/
def afterSomeSixties? (cs : List Char) : Option (List Char) :=
  let rest := afterSixties cs
  if rest.length < cs.length then some rest else none

/-- A point, then digits and underscores and nothing else. -/
def isFraction : List Char → Bool
  | '.' :: cs => cs.all isDigitOrLine
  | _ => false

/-- Is this a floating-point number with digits? -/
def isDecimal (cs : List Char) : Bool :=
  match afterDigits? (unsigned cs) with
  | some rest =>
    (match rest with
      | '.' :: more => isExponent (more.dropWhile isDigitOrLine)
      | _ => false) ||
    (match afterSomeSixties? rest with
      | some more => isFraction more
      | none => false)
  | none =>
    match cs with
    | '.' :: more =>
      match afterDigits? more with
      | some rest => isExponent rest
      | none => false
    | _ => false

/-- The words for infinity, behind a sign or not, and for no number. -/
def isFloatWord (cs : List Char) : Bool :=
  [".inf", ".Inf", ".INF"].contains (String.ofList (unsigned cs)) ||
    [".nan", ".NaN", ".NAN"].contains (String.ofList cs)

def isFloat (cs : List Char) : Bool := isDecimal cs || isFloatWord cs

/-- Are there digits of a class, or underscores, and nothing else? -/
def areDigits (p : Char → Bool) (cs : List Char) : Bool :=
  !cs.isEmpty && cs.all fun c => p c || c == '_'

def isHexDigit (c : Char) : Bool := c.isDigit || ('a' ≤ c && c ≤ 'f') || ('A' ≤ c && c ≤ 'F')

/-- Is a text without a sign written as an integer? -/
def isMagnitude : List Char → Bool
  | ['0'] => true
  | '0' :: c :: cs =>
    (c == 'b' && areDigits (fun d => d == '0' || d == '1') cs) ||
      (c == 'x' && areDigits isHexDigit cs) ||
      areDigits (fun d => '0' ≤ d && d ≤ '7') (c :: cs)
  | c :: cs =>
    c.isDigit && c != '0' &&
      match cs.dropWhile isDigitOrLine with
      | [] => true
      | rest => afterSomeSixties? rest == some []
  | [] => false

def isInt (cs : List Char) : Bool := isMagnitude (unsigned cs)

/-- A text has no first character where one is asked for. -/
def noCharacter : Fault := .value (.say "IndexError" "string index out of range")

def readInt (base : Nat) (cs : List Char) : Except Fault Int :=
  match Text.Integer.read base cs with
  | .ok n => .ok n
  | .error f => .error (.value (.say "ValueError" f.message))

def readDouble (cs : List Char) : Except Fault Double :=
  match Double.read? cs with
  | some x => .ok x
  | none => .error (.value (.say "ValueError"
      ("could not convert string to float: " ++ String.ofList (Text.quoted cs))))

/-- The sign of a text that is not empty, and the text without it. -/
def signed : List Char → Except Fault (Bool × List Char)
  | [] => .error noCharacter
  | '-' :: cs => .ok (true, cs)
  | '+' :: cs => .ok (false, cs)
  | cs => .ok (false, cs)

def parts (cs : List Char) : List (List Char) := cs.splitOn ':'

/-- The integer that a text without a sign and underscores stands for. -/
def magnitude (cs : List Char) : Except Fault Int :=
  match cs with
  | [] => .error noCharacter
  | ['0'] => .ok 0
  | '0' :: 'b' :: ds => readInt 2 ds
  | '0' :: 'x' :: ds => readInt 16 ds
  | '0' :: _ => readInt 8 cs
  | _ =>
    if cs.contains ':' then do
      let ns ← (parts cs).mapM (readInt 10)
      return ns.foldl (fun n d => n * 60 + d) 0
    else readInt 10 cs

def toInt (cs : List Char) : Except Fault Int := do
  let (negative, cs) ← signed (cs.filter (· != '_'))
  let n ← magnitude cs
  return if negative then -n else n

/-- A unit to base sixty is too large for a floating-point number. -/
def unitTooLarge : Fault := .value (.say "OverflowError" "int too large to convert to float")

/-- A sum with parts to base sixty added, the last part first. The first part added stands for
units of `base`. -/
def sixties : Nat → List Double → Double → Except Fault Double
  | _, [], sum => .ok sum
  | base, x :: xs, sum =>
    match Double.ofInt base with
    | .infinite _ => .error unitTooLarge
    | unit => sixties (base * 60) xs (sum.add (x.mul unit))

/-- A number negated if a sign asks for it. -/
def negatedIf (negative : Bool) (x : Double) : Double :=
  (Double.ofInt (if negative then -1 else 1)).mul x

/-- The text of a floating-point number in small letters without underscores, and its sign. -/
def plainDouble (cs : List Char) : Except Fault (Bool × List Char) :=
  signed (Text.lower (cs.filter (· != '_')))

/-- Is this the word for no number? All that stands for it is one and the same. -/
def isSharedWord (cs : List Char) : Bool :=
  match plainDouble cs with
  | .ok (_, word) => word == ".nan".toList
  | .error _ => false

def toDouble (cs : List Char) : Except Fault Double := do
  let (negative, cs) ← plainDouble cs
  if cs == ".inf".toList then return .infinite negative
  else if cs == ".nan".toList then return .nan
  else if cs.contains ':' then
    let xs ← (parts cs).mapM readDouble
    return negatedIf negative (← sixties 1 xs.reverse (.zero false))
  else return negatedIf negative (← readDouble cs)

end TestBench.Yaml.Number
