import SynapseYield.Shared.Lines

set_option autoImplicit false

namespace Shared

namespace Url

open JsonText (Text)

-- What urlsplit asks of Unicode's tables and of the ipaddress module.
class UrlText where
  -- unicodedata.normalize("NFKC", text)
  nfkc : Text → Text
  -- _check_bracketed_netloc raises nothing
  bracketed : Text → Bool

def isAlpha (c : CodePoint) : Bool := Ascii.isUpper c || Ascii.isLower c

def isSchemeChar (c : CodePoint) : Bool :=
  isAlpha c || Ascii.isDigit c || c = 0x2B || c = 0x2D || c = 0x2E

def at_ : CodePoint := 0x40
def colon : CodePoint := 0x3A
def openBracket : CodePoint := 0x5B
def closeBracket : CodePoint := 0x5D
def percent : CodePoint := 0x25

-- _WHATWG_C0_CONTROL_OR_SPACE
def isControlOrSpace (c : CodePoint) : Bool := c.val ≤ 0x20

-- _UNSAFE_URL_BYTES_TO_REMOVE
def isUnsafe (c : CodePoint) : Bool := c = 0x09 || c = 0x0D || c = 0x0A

-- What ends a network location
def isDelimiter (c : CodePoint) : Bool := c = 0x2F || c = 0x3F || c = 0x23

def clean (url : Text) : Text := (url.dropWhile isControlOrSpace).filter (! isUnsafe ·)

def afterScheme (url : Text) : Text :=
  let before := url.takeWhile (· ≠ colon)
  match url.dropWhile (· ≠ colon) with
  | [] => url
  | _ :: rest =>
    if before.head?.any isAlpha && before.all isSchemeChar then rest else url

def location (url : Text) : Text :=
  match afterScheme (clean url) with
  | 0x2F :: 0x2F :: rest => rest.takeWhile (! isDelimiter ·)
  | _ => []

def isAscii (text : Text) : Bool := text.all (·.val < 0x80)

variable [UrlText]

-- Nothing raises a ValueError.
def bracketsChecked (netloc : Text) : Bool :=
  netloc.contains openBracket = netloc.contains closeBracket &&
    (! netloc.contains openBracket || UrlText.bracketed netloc)

-- The characters that a normal form must not bring in
def isReserved (c : CodePoint) : Bool := isDelimiter c || c = at_ || c = colon

def checkNetloc (netloc : Text) : Bool :=
  isAscii netloc ||
    let kept := netloc.filter fun c => ! (c = at_ || c = colon || c = 0x23 || c = 0x3F)
    UrlText.nfkc kept = kept || ! (UrlText.nfkc kept).any isReserved

def accepted (netloc : Text) : Bool := bracketsChecked netloc && checkNetloc netloc

-- netloc.rpartition("@")[2]
def hostInfo (netloc : Text) : Text := (netloc.reverse.takeWhile (· ≠ at_)).reverse

def hostPart (info : Text) : Text :=
  match info.dropWhile (· ≠ openBracket) with
  | [] => info.takeWhile (· ≠ colon)
  | _ :: bracketed => bracketed.takeWhile (· ≠ closeBracket)

-- urlsplit(url).hostname: nothing where it raises a ValueError. A zone keeps its case.
def hostname [PyText] (url : Text) : Option Text :=
  let netloc := location url
  if accepted netloc then
    let host := hostPart (hostInfo netloc)
    some ((PyString.lower ⟨host.takeWhile (· ≠ percent)⟩).points ++ host.dropWhile (· ≠ percent))
  else none

end Url

end Shared
