import Mathlib.Data.List.Lex
import Mathlib.Data.Rat.Lemmas
import Mathlib.Order.Fin.Basic
import SynapseYield.Shared.Number

set_option autoImplicit false

namespace Shared

-- A code point of str: lone surrogates are allowed.
abbrev CodePoint := Fin 0x110000

instance codePoint_neZero : NeZero 0x110000 := ⟨by decide⟩

instance codePoint_lawfulBEq : LawfulBEq CodePoint := inferInstance

structure PyString where
  points : List CodePoint
deriving DecidableEq, Repr

namespace PyString

def ofString (s : String) : PyString := ⟨s.toList.map fun c => Fin.ofNat 0x110000 c.toNat⟩

instance : Coe String PyString := ⟨ofString⟩

def empty : PyString := ⟨[]⟩

instance : Append PyString := ⟨fun s t => ⟨s.points ++ t.points⟩⟩

end PyString

-- Classes of exceptions. UnicodeEncodeError is a ValueError; exit stands for what Exception
-- does not cover.
inductive PyError where
  | typeError
  | valueError
  | keyError
  | overflowError
  | osError
  | other
  | exit
deriving DecidableEq, Repr

-- except Exception
def PyError.isException (raised : PyError) : Prop := raised ≠ .exit

instance (raised : PyError) : Decidable raised.isException :=
  inferInstanceAs (Decidable (raised ≠ .exit))

-- type(error).__name__, where the class is one of these.
def PyError.name : PyError → PyString
  | .typeError => "TypeError"
  | .valueError => "ValueError"
  | .keyError => "KeyError"
  | .overflowError => "OverflowError"
  | .osError => "OSError"
  | .other => "Exception"
  | .exit => "BaseException"

-- What the built-in conversions answer for an object of some other class.
structure PyObject where
  float : Except PyError Number
  int : Except PyError Int
  str : Except PyError PyString

inductive PyValue where
  | none
  | bool (b : Bool)
  | int (n : Int)
  | float (x : Number)
  | str (s : PyString)
  | list (items : List PyValue)
  | tuple (items : List PyValue)
  | dict (entries : List (PyValue × PyValue))
  | object (o : PyObject)

abbrev PyDict := List (PyValue × PyValue)

-- The built-ins that go by Unicode's tables or by the classes of objects. The methods of str
-- and the parsers are asked about text that is not ASCII only.
class PyText where
  strip : PyString → PyString
  upper : PyString → PyString
  lower : PyString → PyString
  isalnum : CodePoint → Bool
  isdigit : CodePoint → Bool
  parseFloat : PyString → Option Number
  parseInt : PyString → Option Int
  -- datetime.fromisoformat, as an instant
  fromisoformat : PyString → Option ℚ
  -- str(value) of what is no string
  str : PyValue → Except PyError PyString
  formatG : Number → PyString
  hashable : PyValue → Bool
  equal : PyValue → PyValue → Bool

-- The first integers that round to no finite float.
def floatOverflow : Nat := 2 ^ 1024 - 2 ^ 970

-- Half of the least positive float, the last number that rounds to zero
def floatUnderflow : ℚ := 1 / 2 ^ 1075

namespace Ascii

def isSpace (c : CodePoint) : Bool := c = 32 || (9 ≤ c.val && c.val ≤ 13) || (28 ≤ c.val && c.val ≤ 31)

def isDigit (c : CodePoint) : Bool := 48 ≤ c.val && c.val ≤ 57

def isUpper (c : CodePoint) : Bool := 65 ≤ c.val && c.val ≤ 90

def isLower (c : CodePoint) : Bool := 97 ≤ c.val && c.val ≤ 122

def strip (s : PyString) : PyString :=
  ⟨((s.points.dropWhile isSpace).reverse.dropWhile isSpace).reverse⟩

-- Unlike str.strip, float and int leave the separators U+001C to U+001F.
def isBlank (c : CodePoint) : Bool := c = 32 || (9 ≤ c.val && c.val ≤ 13)

def trim (s : PyString) : PyString :=
  ⟨((s.points.dropWhile isBlank).reverse.dropWhile isBlank).reverse⟩

def upper (s : PyString) : PyString := ⟨s.points.map fun c => if isLower c then c - 32 else c⟩

def lower (s : PyString) : PyString := ⟨s.points.map fun c => if isUpper c then c + 32 else c⟩

def grouped : Bool → List CodePoint → Bool
  | afterDigit, [] => afterDigit
  | afterDigit, c :: rest =>
    if c = 95 then afterDigit && grouped false rest else isDigit c && grouped true rest

def digits (points : List CodePoint) : List Nat :=
  (points.filter isDigit).map fun c => c.val - 48

def natural (points : List CodePoint) : Nat :=
  (digits points).foldl (fun n digit => 10 * n + digit) 0

def signed (points : List CodePoint) : Int × List CodePoint :=
  match points with
  | 43 :: rest => (1, rest)
  | 45 :: rest => (-1, rest)
  | rest => (1, rest)

def parseInt (s : PyString) : Option Int :=
  let (sign, points) := signed (trim s).points
  if grouped false points then some (sign * natural points) else none

-- The points before the first c, and those after it.
def cut (c : CodePoint) (points : List CodePoint) : List CodePoint × Option (List CodePoint) :=
  match points.dropWhile (· ≠ c) with
  | [] => (points, none)
  | _ :: rest => (points.takeWhile (· ≠ c), some rest)

def parseExponent : Option (List CodePoint) → Option Int
  | none => some 0
  | some points =>
    let (sign, points) := signed points
    if grouped false points then some (sign * natural points) else none

def parseMantissa (points : List CodePoint) : Option ℚ :=
  let (whole, fraction) := cut 46 points
  let fraction := fraction.getD []
  if (whole ≠ [] ∨ fraction ≠ []) ∧ (whole = [] ∨ grouped false whole) ∧
      (fraction = [] ∨ grouped false fraction) then
    some (natural whole + natural fraction / 10 ^ (digits fraction).length)
  else none

-- A number is kept as it is read, unless a float is zero or infinite there.
def ofExact (x : ℚ) : Number :=
  if |x| ≤ floatUnderflow then .finite 0
  else if |x| < floatOverflow then .finite x
  else if 0 < x then .posInf else .negInf

def parseFloat (s : PyString) : Option Number :=
  let (sign, points) := signed (lower (trim s)).points
  if (⟨points⟩ : PyString) = "nan" then some .nan
  else if (⟨points⟩ : PyString) = "inf" ∨ (⟨points⟩ : PyString) = "infinity" then
    some (if 0 < sign then .posInf else .negInf)
  else
    let (mantissa, exponent) := cut 101 points
    match parseMantissa mantissa, parseExponent exponent with
    | some x, some e => some (ofExact (sign * x * (10 : ℚ) ^ e))
    | _, _ => none

end Ascii

namespace PyString

variable [PyText]

def isAscii (s : PyString) : Bool := s.points.all (·.val < 128)

omit [PyText] in
theorem empty_isAscii : empty.isAscii = true := rfl

def strip (s : PyString) : PyString := if s.isAscii then Ascii.strip s else PyText.strip s

def upper (s : PyString) : PyString := if s.isAscii then Ascii.upper s else PyText.upper s

def lower (s : PyString) : PyString := if s.isAscii then Ascii.lower s else PyText.lower s

def isalnum (c : CodePoint) : Bool :=
  if c.val < 128 then Ascii.isDigit c || Ascii.isUpper c || Ascii.isLower c else PyText.isalnum c

def isdigit (c : CodePoint) : Bool :=
  if c.val < 128 then Ascii.isDigit c else PyText.isdigit c

def parseFloat (s : PyString) : Option Number :=
  if s.isAscii then Ascii.parseFloat s else PyText.parseFloat s

def parseInt (s : PyString) : Option Int :=
  if s.isAscii then Ascii.parseInt s else PyText.parseInt s

end PyString

-- Objects that print alike, text that is ASCII, and dates as YYYY-MM-DD (months of 31 days).
@[reducible] def asciiText : PyText where
  strip := id
  upper := id
  lower := id
  isalnum _ := false
  isdigit _ := false
  parseFloat _ := none
  parseInt _ := none
  fromisoformat s := some (Ascii.natural (s.points.take 4) * 372 +
    Ascii.natural ((s.points.drop 5).take 2) * 31 + Ascii.natural ((s.points.drop 8).take 2))
  str
    | .none => .ok "None"
    | .bool b => .ok (if b then "True" else "False")
    | .int n => .ok (toString n : String)
    | _ => .ok "<object>"
  formatG
    | .finite x => (toString x.num : String)
    | _ => "nan"
  hashable
    | .list _ => false
    | .dict _ => false
    | _ => true
  equal
    | .str s, .str t => s = t
    | _, _ => false

def floatOfInt (n : Int) : Except PyError Number :=
  if n.natAbs < floatOverflow then .ok (.finite n) else .error .overflowError

def intOfFloat : Number → Except PyError Int
  | .finite x => .ok (Int.tdiv x.num x.den)
  | .nan => .error .valueError
  | _ => .error .overflowError

namespace PyValue

variable [PyText]

-- float(value)
def toFloat : PyValue → Except PyError Number
  | .bool b => .ok (.finite (if b then 1 else 0))
  | .int n => floatOfInt n
  | .float x => .ok x
  | .str s => match s.parseFloat with
    | some x => .ok x
    | Option.none => .error .valueError
  | .object o => o.float
  | _ => .error .typeError

-- int(value)
def toInt : PyValue → Except PyError Int
  | .bool b => .ok (if b then 1 else 0)
  | .int n => .ok n
  | .float x => intOfFloat x
  | .str s => match s.parseInt with
    | some n => .ok n
    | Option.none => .error .valueError
  | .object o => o.int
  | _ => .error .typeError

-- str(value)
def toStr : PyValue → Except PyError PyString
  | .str s => .ok s
  | .object o => o.str
  | value => PyText.str value

-- bool(value)
def truthy : PyValue → Bool
  | .none => false
  | .bool b => b
  | .int n => n ≠ 0
  | .float x => x ≠ .finite 0
  | .str s => s.points ≠ []
  | .list items => ! items.isEmpty
  | .tuple items => ! items.isEmpty
  | .dict entries => ! entries.isEmpty
  | .object _ => true

-- The items that iteration gives.
def iter : PyValue → Except PyError (List PyValue)
  | .list items => .ok items
  | .tuple items => .ok items
  | .dict entries => .ok (entries.map Prod.fst)
  | .str s => .ok (s.points.map fun c => .str ⟨[c]⟩)
  | _ => .error .typeError

def isKey (key : PyString) : PyValue → Bool
  | .str s => s = key
  | _ => false

def entries? : PyValue → Option PyDict
  | .dict entries => some entries
  | _ => Option.none

def isNone : PyValue → Bool
  | .none => true
  | _ => false

end PyValue

namespace PyDict

-- d[key], where the key is in d
def lookup (d : PyDict) (key : PyString) : Option PyValue :=
  (d.find? fun entry => entry.1.isKey key).map Prod.snd

-- d.get(key)
def get (d : PyDict) (key : PyString) : PyValue := (d.lookup key).getD .none

-- d[key] = value
def set (d : PyDict) (key : PyString) (value : PyValue) : PyDict :=
  if d.any (·.1.isKey key) then
    d.map fun entry => if entry.1.isKey key then (entry.1, value) else entry
  else d ++ [(.str key, value)]

-- The value under the first of the keys that the dict has.
def firstOf (d : PyDict) (keys : List PyString) : Option PyValue :=
  keys.findSome? d.lookup

end PyDict

end Shared
