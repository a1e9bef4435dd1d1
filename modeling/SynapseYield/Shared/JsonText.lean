import Mathlib.Data.Nat.Digits.Defs
import SynapseYield.Shared.Python

set_option autoImplicit false

namespace Shared

-- A number is given by its literal.
inductive Json where
  | null
  | bool (b : Bool)
  | number (literal : List CodePoint)
  | str (s : PyString)
  | arr (items : List Json)
  | obj (members : List (PyString × Json))

namespace JsonText

abbrev Text := List CodePoint

-- A dict with string keys
abbrev Members := List (PyString × Json)

def quote : CodePoint := 0x22
def comma : CodePoint := 0x2C
def colon : CodePoint := 0x3A
def openBracket : CodePoint := 0x5B
def backslash : CodePoint := 0x5C
def closeBracket : CodePoint := 0x5D
def openBrace : CodePoint := 0x7B
def closeBrace : CodePoint := 0x7D

def isBlank (c : CodePoint) : Bool := c = 0x20 || c = 0x09 || c = 0x0A || c = 0x0D

def skip (text : Text) : Text := text.dropWhile isBlank

-- The letter after the backslash and what it stands for; \/ is read and never written.
def escapes : List (CodePoint × CodePoint) :=
  [(0x22, 0x22), (0x5C, 0x5C), (0x62, 0x08), (0x66, 0x0C), (0x6E, 0x0A), (0x72, 0x0D),
    (0x74, 0x09), (0x2F, 0x2F)]

def hexDigit (n : Nat) : CodePoint :=
  if n < 10 then Fin.ofNat 0x110000 (0x30 + n) else Fin.ofNat 0x110000 (0x57 + n)

-- \u and the four hexadecimal digits of a control character
def unicodeEscape (c : CodePoint) : Text :=
  [backslash, 0x75, 0x30, 0x30, hexDigit (c.val / 16), hexDigit (c.val % 16)]

def writeChar (c : CodePoint) : Text :=
  if c.val < 0x20 || c = quote || c = backslash then
    match escapes.find? (·.2 = c) with
    | some (letter, _) => [backslash, letter]
    | none => unicodeEscape c
  else [c]

def writeString (s : PyString) : Text := quote :: s.points.flatMap writeChar ++ [quote]

-- The blanks that a writer puts after an opening bracket, after a comma, before a closing
-- bracket, by the depth of the items, and after a colon.
structure Style where
  opening : Nat → Text
  between : Nat → Text
  closing : Nat → Text
  afterColon : Text
  opening_blank : ∀ depth, (opening depth).all isBlank = true
  between_blank : ∀ depth, (between depth).all isBlank = true
  closing_blank : ∀ depth, (closing depth).all isBlank = true
  afterColon_blank : afterColon.all isBlank = true

-- json.dumps without indent
theorem space_blank : [(0x20 : CodePoint)].all isBlank = true := rfl

def Style.spaced : Style where
  opening _ := []
  between _ := [0x20]
  closing _ := []
  afterColon := [0x20]
  opening_blank _ := rfl
  between_blank _ := rfl
  closing_blank _ := rfl
  afterColon_blank := rfl

-- separators=(",", ":")
def Style.compact : Style where
  opening _ := []
  between _ := []
  closing _ := []
  afterColon := []
  opening_blank _ := rfl
  between_blank _ := rfl
  closing_blank _ := rfl
  afterColon_blank := rfl

mutual

def write (style : Style) (depth : Nat) : Json → Text
  | .null => ("null" : PyString).points
  | .bool true => ("true" : PyString).points
  | .bool false => ("false" : PyString).points
  | .number literal => literal
  | .str s => writeString s
  | .arr [] => [openBracket, closeBracket]
  | .arr (item :: rest) =>
    openBracket :: style.opening depth ++ write style (depth + 1) item ++
      writeItems style depth rest ++ style.closing depth ++ [closeBracket]
  | .obj [] => [openBrace, closeBrace]
  | .obj ((key, value) :: rest) =>
    openBrace :: style.opening depth ++ writeString key ++ colon :: style.afterColon ++
      write style (depth + 1) value ++ writeMembers style depth rest ++ style.closing depth ++
      [closeBrace]

def writeItems (style : Style) (depth : Nat) : List Json → Text
  | [] => []
  | item :: rest =>
    comma :: style.between depth ++ write style (depth + 1) item ++ writeItems style depth rest

def writeMembers (style : Style) (depth : Nat) : List (PyString × Json) → Text
  | [] => []
  | (key, value) :: rest =>
    comma :: style.between depth ++ writeString key ++ colon :: style.afterColon ++
      write style (depth + 1) value ++ writeMembers style depth rest

end

def hexValue (c : CodePoint) : Option Nat :=
  if 0x30 ≤ c.val && c.val ≤ 0x39 then some (c.val - 0x30)
  else if 0x41 ≤ c.val && c.val ≤ 0x46 then some (c.val - 0x37)
  else if 0x61 ≤ c.val && c.val ≤ 0x66 then some (c.val - 0x57)
  else none

def hexNumber (digits : List CodePoint) : Option CodePoint :=
  (digits.mapM hexValue).map fun values =>
    Fin.ofNat 0x110000 (values.foldl (fun n digit => 16 * n + digit) 0)

-- What one character or one escape of a string gives. Two escapes may stand for one character.
inductive Piece where
  | char (c : CodePoint)
  | escaped (c : CodePoint)

def scanString : Text → Option (List Piece × Text)
  | [] => none
  | c :: rest =>
    if c = quote then some ([], rest)
    else if c = backslash then
      match rest with
      | 0x75 :: h₁ :: h₂ :: h₃ :: h₄ :: rest =>
        (hexNumber [h₁, h₂, h₃, h₄]).bind fun c =>
          (scanString rest).map fun (pieces, rest) => (.escaped c :: pieces, rest)
      | letter :: rest =>
        (escapes.find? (·.1 = letter)).bind fun (_, c) =>
          (scanString rest).map fun (pieces, rest) => (.char c :: pieces, rest)
      | [] => none
    else if c.val < 0x20 then none
    else (scanString rest).map fun (pieces, rest) => (.char c :: pieces, rest)
termination_by structural text => text

def isHigh (c : CodePoint) : Bool := 0xD800 ≤ c.val && c.val ≤ 0xDBFF

def isLow (c : CodePoint) : Bool := 0xDC00 ≤ c.val && c.val ≤ 0xDFFF

def pair (high low : CodePoint) : CodePoint :=
  Fin.ofNat 0x110000 (0x10000 + (high.val - 0xD800) * 0x400 + (low.val - 0xDC00))

-- The first character that the rest gives is the low one of the pair.
def join : List Piece → List CodePoint
  | [] => []
  | .char c :: rest => c :: join rest
  | .escaped high :: rest =>
    match rest.head? with
    | some (.escaped low) =>
      if isHigh high && isLow low then pair high low :: (join rest).tail else high :: join rest
    | _ => high :: join rest

def isDigit (c : CodePoint) : Bool := 0x30 ≤ c.val && c.val ≤ 0x39

def isNumberChar (c : CodePoint) : Bool :=
  isDigit c || c = 0x2B || c = 0x2D || c = 0x2E || c = 0x45 || c = 0x65

def isInteger : Text → Bool
  | [] => false
  | first :: rest => (first :: rest).all isDigit && (first ≠ 0x30 || rest.isEmpty)

def isExponent : Text → Bool
  | [] => true
  | e :: 0x2B :: digits => (e = 0x45 || e = 0x65) && ! digits.isEmpty && digits.all isDigit
  | e :: 0x2D :: digits => (e = 0x45 || e = 0x65) && ! digits.isEmpty && digits.all isDigit
  | e :: digits => (e = 0x45 || e = 0x65) && ! digits.isEmpty && digits.all isDigit

def isFraction : Text → Bool
  | 0x2E :: rest =>
    ! (rest.takeWhile isDigit).isEmpty && isExponent (rest.dropWhile isDigit)
  | text => isExponent text

-- -?(0|[1-9][0-9]*)(\.[0-9]+)?([eE][-+]?[0-9]+)?
def isNumber : Text → Bool
  | 0x2D :: text => isInteger (text.takeWhile isDigit) && isFraction (text.dropWhile isDigit)
  | text => isInteger (text.takeWhile isDigit) && isFraction (text.dropWhile isDigit)

-- str(n)
def decimal (n : Nat) : Text :=
  if n = 0 then [0x30]
  else (Nat.digits 10 n).reverse.map fun digit => Fin.ofNat 0x110000 (0x30 + digit)

def constants : List (Text × Json) :=
  [(("null" : PyString).points, .null), (("true" : PyString).points, .bool true),
    (("false" : PyString).points, .bool false),
    (("NaN" : PyString).points, .number ("NaN" : PyString).points),
    (("Infinity" : PyString).points, .number ("Infinity" : PyString).points),
    (("-Infinity" : PyString).points, .number ("-Infinity" : PyString).points)]

-- A number ends where its characters end: what the scanner of Python leaves unread of them is
-- an error in every document.
def scanAtom (text : Text) : Option (Json × Text) :=
  match constants.find? (·.1.isPrefixOf text) with
  | some (word, value) => some (value, text.drop word.length)
  | none =>
    if isNumber (text.takeWhile isNumberChar) then
      some (.number (text.takeWhile isNumberChar), text.dropWhile isNumberChar)
    else none

def nonFinite : List Text :=
  [("NaN" : PyString).points, ("Infinity" : PyString).points, ("-Infinity" : PyString).points]

mutual

-- The literals are numbers, and no key stands twice in an object.
def wellFormed : Json → Bool
  | .number literal => isNumber literal || nonFinite.contains literal
  | .arr items => wellFormedItems items
  | .obj members => (members.map (·.1)).Nodup && wellFormedMembers members
  | _ => true

def wellFormedItems : List Json → Bool
  | [] => true
  | item :: rest => wellFormed item && wellFormedItems rest

def wellFormedMembers : List (PyString × Json) → Bool
  | [] => true
  | (_, value) :: rest => wellFormed value && wellFormedMembers rest

end

mutual

def characters : Json → List CodePoint
  | .str s => s.points
  | .arr items => itemCharacters items
  | .obj members => memberCharacters members
  | _ => []

def itemCharacters : List Json → List CodePoint
  | [] => []
  | item :: rest => characters item ++ itemCharacters rest

def memberCharacters : List (PyString × Json) → List CodePoint
  | [] => []
  | (key, value) :: rest => key.points ++ characters value ++ memberCharacters rest

end

-- dict(pairs): the last value of a key stands at the key's first place.
def setMember (members : Members) (key : PyString) (value : Json) : Members :=
  if members.any (·.1 = key) then
    members.map fun member => if member.1 = key then (key, value) else member
  else members ++ [(key, value)]

def ofPairs (pairs : Members) : Members :=
  pairs.foldl (fun members (key, value) => setMember members key value) []

def expect (c : CodePoint) : Text → Option Text
  | first :: rest => if first = c then some rest else none
  | [] => none

def scanKey (text : Text) : Option (PyString × Text) :=
  (expect quote text).bind fun text =>
    (scanString text).map fun (pieces, text) => (⟨join pieces⟩, text)

mutual

def scanValue : Nat → Text → Option (Json × Text)
  | 0, _ => none
  | _, [] => none
  | fuel + 1, c :: rest =>
    if c = quote then (scanString rest).map fun (pieces, text) => (.str ⟨join pieces⟩, text)
    else if c = openBracket then
      match expect closeBracket (skip rest) with
      | some text => some (.arr [], text)
      | none => (scanItems fuel (skip rest)).map fun (items, text) => (.arr items, text)
    else if c = openBrace then
      match expect closeBrace (skip rest) with
      | some text => some (.obj [], text)
      | none =>
        (scanMembers fuel (skip rest)).map fun (members, text) => (.obj (ofPairs members), text)
    else scanAtom (c :: rest)

def scanItems : Nat → Text → Option (List Json × Text)
  | 0, _ => none
  | fuel + 1, text =>
    (scanValue fuel text).bind fun (item, text) =>
      match expect closeBracket (skip text) with
      | some text => some ([item], text)
      | none =>
        (expect comma (skip text)).bind fun text =>
          (scanItems fuel (skip text)).map fun (items, text) => (item :: items, text)

def scanMembers : Nat → Text → Option (List (PyString × Json) × Text)
  | 0, _ => none
  | fuel + 1, text =>
    (scanKey text).bind fun (key, text) =>
      (expect colon (skip text)).bind fun text =>
        (scanValue fuel (skip text)).bind fun (value, text) =>
          match expect closeBrace (skip text) with
          | some text => some ([(key, value)], text)
          | none =>
            (expect comma (skip text)).bind fun text =>
              (scanMembers fuel (skip text)).map fun (members, text) =>
                ((key, value) :: members, text)

end

-- json.loads
def loads (text : PyString) : Option Json :=
  match scanValue (text.points.length + 1) (skip text.points) with
  | some (value, rest) => if (skip rest).isEmpty then some value else none
  | none => none

end JsonText

end Shared
