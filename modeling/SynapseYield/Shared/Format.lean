import Mathlib.Data.Rat.Floor
import SynapseYield.Shared.JsonText
import SynapseYield.Shared.Python

set_option autoImplicit false

namespace Shared

-- The nearest integer, the even one of two
def roundHalfEven (x : ℚ) : ℤ :=
  let rest := x - ⌊x⌋
  if rest < 1 / 2 ∨ rest = 1 / 2 ∧ ⌊x⌋ % 2 = 0 then ⌊x⌋ else ⌊x⌋ + 1

-- round(x, digits) of a number that is held exactly
def roundTo (digits : Nat) (x : ℚ) : ℚ := roundHalfEven (x * 10 ^ digits) / 10 ^ digits

-- The digits of a number, with a comma before every three from the right, the last first
def grouped : Nat → List Char → List Char
  | _, [] => []
  | 3, digit :: rest => ',' :: digit :: grouped 1 rest
  | n, digit :: rest => digit :: grouped (n + 1) rest

-- f"{x:.2f}", or f"{x:,.2f}" with commas
def formatHundredths (commas : Bool) (x : ℚ) : PyString :=
  let hundredths := (roundHalfEven (x * 100)).natAbs
  let whole := (Nat.toDigits 10 (hundredths / 100)).reverse
  let whole := (if commas then grouped 0 whole else whole).reverse
  let cents := Nat.toDigits 10 (hundredths % 100)
  let sign := if x < 0 then ['-'] else []
  String.ofList (sign ++ whole ++ '.' :: (if hundredths % 100 < 10 then '0' :: cents else cents))

end Shared

-- The replacement fields of a template, as string.Formatter().parse finds them.
namespace Shared.Format

open JsonText (Text colon openBracket closeBracket openBrace closeBrace)

def exclamation : CodePoint := 0x21

-- The name of a field, the mark that ends it, and what is behind that. Inside brackets no mark
-- counts.
def fieldName : Bool → Text → Except PyString (Text × CodePoint × Text)
  | _, [] => .error "expected '\x7d' before end of string"
  | bracketed, c :: rest =>
    if bracketed then
      (fieldName (c ≠ closeBracket) rest).map fun (name, ended) => (c :: name, ended)
    else if c = openBrace then .error "unexpected '\x7b' in field name"
    else if c = closeBrace ∨ c = colon ∨ c = exclamation then .ok ([], c, rest)
    else (fieldName (c = openBracket) rest).map fun (name, ended) => (c :: name, ended)

-- What is behind the format specification.
def formatSpec : Nat → Text → Except PyString Text
  | _, [] => .error "unmatched '\x7b' in format spec"
  | count, c :: rest =>
    if c = openBrace then formatSpec (count + 1) rest
    else if c = closeBrace then if count = 1 then .ok rest else formatSpec (count - 1) rest
    else formatSpec count rest

def conversion : Text → Except PyString Text
  | [] => .error "end of string while looking for conversion specifier"
  | [_] => formatSpec 1 []
  | _ :: c :: rest =>
    if c = closeBrace then .ok rest
    else if c = colon then formatSpec 1 rest
    else .error "expected ':' after conversion specifier"

def field (text : Text) : Except PyString (Text × Text) := do
  let (name, mark, rest) ← fieldName false text
  if mark = closeBrace then .ok (name, rest)
  else if mark = colon then .ok (name, ← formatSpec 1 rest)
  else .ok (name, ← conversion rest)

-- The names of the fields, in order. Every turn takes a part of the text.
def fieldNames : Nat → Text → Except PyString (List Text)
  | _, [] => .ok []
  | 0, _ => .error .empty
  | turns + 1, c :: rest =>
    if c = closeBrace then
      match rest with
      | d :: rest => if d = closeBrace then fieldNames turns rest
        else .error "Single '\x7d' encountered in format string"
      | [] => .error "Single '\x7d' encountered in format string"
    else if c = openBrace then
      match rest with
      | [] => .error "Single '\x7b' encountered in format string"
      | d :: rest =>
        if d = openBrace then fieldNames turns rest
        else do
          let (name, rest) ← field (d :: rest)
          let names ← fieldNames turns rest
          .ok (name :: names)
    else fieldNames turns rest

-- string.Formatter().parse(template)
def parse (template : PyString) : Except PyString (List PyString) :=
  (fieldNames template.points.length template.points).map (·.map PyString.mk)

end Shared.Format
