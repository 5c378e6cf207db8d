import Docwright.Number.Reading
import Docwright.Text.LetterCase
import Docwright.Text.Search

/-!
# Hosts

A host is named by letters, digits, points and dashes, or by hexadecimal numbers between brackets. A
colon and a number may follow the name; the number has at most five digits and does not start with a
zero. Behind a name the number that belongs to the scheme goes without saying.
-/

namespace Docwright

namespace Web

namespace Host

/-- Is the character a hexadecimal digit? -/
def isHexDigit (c : Char) : Bool :=
  (Text.hexValue? c).isSome

/-- Can the character stand in a name? -/
def isNameChar (c : Char) : Bool :=
  c.isAlphanum || c == '.' || c == '-'

/-- Can the text stand between brackets? -/
def isBracketed (s : List Char) : Bool :=
  match Text.splitFirst ':' s with
  | (front, some rest) =>
    front.all isHexDigit && !rest.isEmpty &&
      rest.all fun c => isHexDigit c || c == '.' || c == ':'
  | (_, none) => false

/-- Can the digits be the number of a host? -/
def isNumber (digits : List Char) : Bool :=
  digits.all Char.isDigit && 0 < digits.length && digits.length ≤ 5 && digits.head? != some '0'

/-- Can the text follow a name? -/
def isEnding : List Char → Bool
  | [] => true
  | ':' :: digits => isNumber digits
  | _ => false

/-- Does the text name a host? -/
def isHost : List Char → Bool
  | '[' :: s =>
    match Text.splitFirst ']' s with
    | (inner, some rest) => isBracketed inner && isEnding rest
    | (_, none) => false
  | s => s.takeWhile isNameChar != [] && isEnding (s.dropWhile isNameChar)

/-- The name of a host, and what stands behind its colon. -/
def splitNumber (s : List Char) : List Char × Option (List Char) :=
  match s with
  | '[' :: rest =>
    match Text.splitFirst ']' rest with
    | (inner, some behind) => ('[' :: inner ++ [']'], (Text.splitFirst ':' behind).2)
    | (_, none) => (s, none)
  | s => Text.splitFirst ':' s

/-- The host with its number written without zeros in front. A number that is zero or left out is
dropped, and so is the colon. -/
def shortNumber (s : List Char) : List Char :=
  let (name, number) := splitNumber s
  let digits := number.getD []
  if digits.all Char.isDigit then
    let n := Number.digitsValue digits
    if n = 0 then name else name ++ ':' :: (toString n).toList
  else s

/-- The host of an address. What stands in front of an at sign is dropped if it names nobody. -/
def ofAddress (s : List Char) : List Char :=
  match Text.splitLast? '@' s with
  | none => shortNumber s
  | some (user, host) => if (Text.splitFirst ':' user).1 = [] then shortNumber host else s

/-- What goes without saying behind a host in a scheme. -/
def usualEnding (scheme : List Char) : List Char :=
  if scheme = "http".toList then ":80".toList
  else if scheme = "https".toList then ":443".toList
  else []

/-- The host in small letters and without what goes without saying; nothing if the text names no
host. -/
def shown (scheme s : List Char) : List Char :=
  let ending := usualEnding scheme
  let bare := if ending.isSuffixOf s then s.take (s.length - ending.length) else s
  if isHost bare then Text.lower bare else []

/-- Is the name of a host broken? Of its parts between points only the last one may be empty, and
none may have more than 63 characters. -/
def isBroken (host : List Char) : Bool :=
  let parts := (Text.splitFirst ':' host).1.splitOn '.'
  parts.dropLast.any (·.isEmpty) || parts.any (63 < ·.length)

end Host

end Web

end Docwright
