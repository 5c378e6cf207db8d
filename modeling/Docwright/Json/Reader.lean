import Docwright.Association
import Docwright.Json.Basic
import Docwright.Number.Reading
import Docwright.Text.Digit
import Docwright.Text.Glyph
import Docwright.Text.Search

/-!
# Reading JSON

A reader of JSON texts that names the first thing that is wrong and where. Blanks are the space,
the tab, the newline and the carriage return. Beyond the standard, the words `NaN`, `Infinity` and
`-Infinity` are numbers. A whole number may have at most 4300 digits, and values may be nested only
so deep. A field name that is repeated keeps its first place and its last value. An escape can spell
a surrogate without its partner, so what is read is made of glyphs.

While a text is being read, a complaint carries the part of the text that it points at; its line,
column and offset are counted only in the end.
-/

namespace Docwright

namespace Json

/-- What can be wrong with a JSON text. -/
inductive Cause where
  /-- no value starts here -/
  | expectingValue
  /-- no field name starts here -/
  | expectingName
  /-- a field name without a colon behind it -/
  | expectingColon
  /-- a value that is followed neither by a comma nor by the closing bracket -/
  | expectingComma
  /-- something behind the document -/
  | extraData
  /-- a string without an end -/
  | unterminated
  /-- a control character in a string -/
  | controlCharacter
  /-- an unknown escape -/
  | badEscape
  /-- a code unit escape without four hexadecimal digits -/
  | badUnit
  /-- a byte order mark in front of the document -/
  | byteOrderMark
  deriving DecidableEq, Repr

/-- The wording of a cause. -/
def Cause.message : Cause → String
  | .expectingValue => "Expecting value"
  | .expectingName => "Expecting property name enclosed in double quotes"
  | .expectingColon => "Expecting ':' delimiter"
  | .expectingComma => "Expecting ',' delimiter"
  | .extraData => "Extra data"
  | .unterminated => "Unterminated string starting at"
  | .controlCharacter => "Invalid control character at"
  | .badEscape => "Invalid \\escape"
  | .badUnit => "Invalid \\uXXXX escape"
  | .byteOrderMark => "Unexpected UTF-8 BOM (decode using utf-8-sig)"

/-- The values that hold other values. -/
inductive Holder where
  /-- an array -/
  | array
  /-- an object -/
  | object
  deriving DecidableEq, Repr

/-- The name of a holder in messages. -/
def Holder.name : Holder → String
  | .array => "array"
  | .object => "object"

/-- Why reading stopped: a cause and the text it points at, or a limit that was reached. -/
inductive Stop where
  /-- something is wrong with the text at `rest` -/
  | malformed (cause : Cause) (rest : LooseText)
  /-- a whole number has `digits` digits -/
  | tooLong (digits : Nat)
  /-- a holder is nested too deep -/
  | tooDeep (holder : Holder)
  deriving DecidableEq, Repr

/-- A part of a text and what follows it, or why it could not be read. -/
abbrev Part (α : Type) := Except Stop (α × LooseText)

/-- The blanks of JSON. -/
def isGap (c : Char) : Bool :=
  c == ' ' || c == '\t' || c == '\n' || c == '\r'

/-- A text without the blanks it starts with. -/
def skipGap (s : LooseText) : LooseText :=
  s.dropWhile (Glyph.isIn isGap)

/-! ## Strings -/

/-- A piece of a string. -/
inductive Piece where
  /-- a character that was spelled by an escape, or a glyph of the text -/
  | glyph (g : Glyph)
  /-- a surrogate that was spelled by an escape -/
  | surrogate (unit : Nat)
  deriving DecidableEq, Repr

/-- The piece that a code unit stands for on its own. -/
def Piece.ofUnit (n : Nat) : Piece :=
  if (Glyph.ofCode n).isLone then .surrogate n else .glyph (.ofCode n)

/-- A piece in front of others; the two surrogates of a pair become one character. -/
def Piece.cons : Piece → List Piece → List Piece
  | .surrogate high, .surrogate low :: rest =>
    if Text.isHighSurrogate high && Text.isLowSurrogate low then
      .glyph (.char (Text.ofPair high low)) :: rest
    else .surrogate high :: .surrogate low :: rest
  | piece, rest => piece :: rest

/-- The glyph of a piece. -/
def Piece.toGlyph : Piece → Glyph
  | .glyph g => g
  | .surrogate unit => .ofCode unit

/-- The string of some pieces. -/
def ofPieces (pieces : List Piece) : LooseText :=
  pieces.map Piece.toGlyph

/-- The value of a glyph that is a hexadecimal digit. -/
def digit? (g : Glyph) : Option Nat :=
  g.char?.bind Text.hexValue?

/-- The code unit that four hexadecimal digits spell. -/
def unit? (a b c d : Glyph) : Option Nat := do
  let a ← digit? a
  let b ← digit? b
  let c ← digit? c
  let d ← digit? d
  return ((a * 16 + b) * 16 + c) * 16 + d

/-- The character of a one-letter escape. -/
def escape? : Char → Option Char
  | '"' => some '"'
  | '\\' => some '\\'
  | '/' => some '/'
  | 'b' => some '\x08'
  | 'f' => some '\x0c'
  | 'n' => some '\n'
  | 'r' => some '\r'
  | 't' => some '\t'
  | _ => none

/-- Is the glyph a control character? -/
def isControl (g : Glyph) : Bool :=
  g.code < 0x20

/-- The pieces of a string up to its closing quote. `whole` is the text from the opening quote on:
a string without an end is reported there. Four digits of a code unit need one glyph more behind
them. -/
def readPieces (whole : LooseText) : LooseText → Part (List Piece)
  | [] => .error (.malformed .unterminated whole)
  | .char '"' :: rest => .ok ([], rest)
  | .char '\\' :: [] => .error (.malformed .unterminated whole)
  | .char '\\' :: .char 'u' :: a :: b :: c :: d :: next :: rest =>
    match unit? a b c d with
    | none => .error (.malformed .badUnit (.char 'u' :: a :: b :: c :: d :: next :: rest))
    | some n =>
      match readPieces whole (next :: rest) with
      | .ok (pieces, rest) => .ok (Piece.cons (.ofUnit n) pieces, rest)
      | .error stop => .error stop
  | .char '\\' :: .char 'u' :: rest => .error (.malformed .badUnit (.char 'u' :: rest))
  | .char '\\' :: e :: rest =>
    match e.char?.bind escape? with
    | none => .error (.malformed .badEscape (.char '\\' :: e :: rest))
    | some c =>
      match readPieces whole rest with
      | .ok (pieces, rest) => .ok (Piece.cons (.glyph (.char c)) pieces, rest)
      | .error stop => .error stop
  | g :: rest =>
    if isControl g then .error (.malformed .controlCharacter (g :: rest))
    else
      match readPieces whole rest with
      | .ok (pieces, rest) => .ok (Piece.cons (.glyph g) pieces, rest)
      | .error stop => .error stop

/-! ## Numbers -/

/-- The most digits a whole number may have. -/
def maxDigits : Nat := 4300

/-- The digits behind a point, if at least one follows it. -/
def splitFraction : List Char → Option (List Char) × List Char
  | '.' :: rest =>
    let digits := rest.takeWhile Char.isDigit
    if digits.isEmpty then (none, '.' :: rest) else (some digits, rest.dropWhile Char.isDigit)
  | s => (none, s)

/-- The exponent, if an exponent mark is followed by digits. -/
def splitExponent (s : List Char) : Option Int × List Char :=
  match s with
  | [] => (none, s)
  | mark :: rest =>
    if mark = 'e' || mark = 'E' then
      let (negative, rest) := Number.splitSign rest
      let digits := rest.takeWhile Char.isDigit
      if digits.isEmpty then (none, s)
      else
        let n : Int := Number.digitsValue digits
        (some (if negative then -n else n), rest.dropWhile Char.isDigit)
    else (none, s)

/-- The digits in front of a point: a single zero, or digits that do not start with one. -/
def splitWhole? : List Char → Option (List Char × List Char)
  | '0' :: rest => some (['0'], rest)
  | c :: rest =>
    if c.isDigit then some (c :: rest.takeWhile Char.isDigit, rest.dropWhile Char.isDigit)
    else none
  | [] => none

/-- What the characters of a number stand for. -/
inductive Numeral where
  /-- a number -/
  | value (n : Number)
  /-- a whole number with more digits than it may have -/
  | tooLong (digits : Nat)
  deriving DecidableEq, Repr

/-- The number that some characters start with, and the characters behind it. It is whole when it
has neither a fraction nor an exponent. -/
def numeral? (s : List Char) : Option (Numeral × List Char) :=
  let (negative, body) :=
    match s with
    | '-' :: rest => (true, rest)
    | rest => (false, rest)
  match splitWhole? body with
  | none => none
  | some (whole, rest) =>
    let (fraction, rest) := splitFraction rest
    let (exponent, rest) := splitExponent rest
    match fraction, exponent with
    | none, none =>
      if maxDigits < whole.length then some (.tooLong whole.length, rest)
      else
        let n : Int := Number.digitsValue whole
        some (.value (.whole (if negative then -n else n)), rest)
    | _, _ =>
      let fraction := fraction.getD []
      let value := Number.digitsValue (whole ++ fraction)
      let x := Binary64.ofDecimal negative value (exponent.getD 0 - fraction.length)
      some (.value (.binary x), rest)

/-- A number. All of it is characters, so it ends before the first surrogate. -/
def readNumber (s : LooseText) : Part Number :=
  match numeral? s.front with
  | none => .error (.malformed .expectingValue s)
  | some (.tooLong digits, _) => .error (.tooLong digits)
  | some (.value n, rest) => .ok (n, .ofChars rest ++ s.behind)

/-! ## Values -/

/-- The words that are values, each with its value. -/
def wordValues : List (String × Json) :=
  [("null", .null), ("true", .bool true), ("false", .bool false),
   ("NaN", .num (.binary .nan)), ("Infinity", .num (.binary (.infinite false))),
   ("-Infinity", .num (.binary (.infinite true)))]

/-- A value that is a word. -/
def readWord? (s : LooseText) : Option (Json × LooseText) :=
  wordValues.findSome? fun (word, value) => (Text.after? (word : LooseText) s).map (value, ·)

/-- How many holders may be nested. -/
def maxDepth : Nat := 990

mutual

/-- The value that a text starts with, with `room` for nested holders. The fuel bounds the reading
and is never used up by `read`. -/
def readValue (room : Nat) : (fuel : Nat) → LooseText → Part Json
  | 0, s => .error (.malformed .expectingValue s)
  | fuel + 1, s =>
    match s with
    | .char '"' :: rest =>
      match readPieces s rest with
      | .ok (pieces, rest) => .ok (.str (ofPieces pieces), rest)
      | .error stop => .error stop
    | .char '{' :: rest =>
      if room = 0 then .error (.tooDeep .object)
      else
        match skipGap rest with
        | .char '}' :: rest => .ok (.obj [], rest)
        | rest =>
          match readFields (room - 1) fuel rest with
          | .ok (fields, rest) => .ok (.obj (Association.ofPairs fields), rest)
          | .error stop => .error stop
    | .char '[' :: rest =>
      if room = 0 then .error (.tooDeep .array)
      else
        match skipGap rest with
        | .char ']' :: rest => .ok (.arr [], rest)
        | rest =>
          match readItems (room - 1) fuel rest with
          | .ok (items, rest) => .ok (.arr items, rest)
          | .error stop => .error stop
    | s =>
      match readWord? s with
      | some found => .ok found
      | none =>
        match readNumber s with
        | .ok (n, rest) => .ok (.num n, rest)
        | .error stop => .error stop

/-- The items of an array, from the first one to the closing bracket. -/
def readItems (room : Nat) : (fuel : Nat) → LooseText → Part (List Json)
  | 0, s => .error (.malformed .expectingValue s)
  | fuel + 1, s =>
    match readValue room fuel s with
    | .error stop => .error stop
    | .ok (item, rest) =>
      match skipGap rest with
      | .char ']' :: rest => .ok ([item], rest)
      | .char ',' :: rest =>
        match readItems room fuel (skipGap rest) with
        | .ok (items, rest) => .ok (item :: items, rest)
        | .error stop => .error stop
      | rest => .error (.malformed .expectingComma rest)

/-- The fields of an object, from the first name to the closing brace. -/
def readFields (room : Nat) : (fuel : Nat) → LooseText → Part (List (LooseText × Json))
  | 0, s => .error (.malformed .expectingName s)
  | fuel + 1, s =>
    match s with
    | .char '"' :: rest =>
      match readPieces s rest with
      | .error stop => .error stop
      | .ok (pieces, rest) =>
        match skipGap rest with
        | .char ':' :: rest =>
          match readValue room fuel (skipGap rest) with
          | .error stop => .error stop
          | .ok (value, rest) =>
            let field := (ofPieces pieces, value)
            match skipGap rest with
            | .char '}' :: rest => .ok ([field], rest)
            | .char ',' :: rest =>
              match readFields room fuel (skipGap rest) with
              | .ok (fields, rest) => .ok (field :: fields, rest)
              | .error stop => .error stop
            | rest => .error (.malformed .expectingComma rest)
        | rest => .error (.malformed .expectingColon rest)
    | s => .error (.malformed .expectingName s)

end

/-! ## Documents -/

/-- Why a text is no JSON document. -/
inductive ReadError where
  /-- something is wrong at a place of the text -/
  | malformed (cause : Cause) (line column offset : Nat)
  /-- a whole number has too many digits -/
  | tooLong (digits : Nat)
  /-- a holder is nested too deep -/
  | tooDeep (holder : Holder)
  deriving DecidableEq, Repr

/-- The wording of a read error. -/
def ReadError.message : ReadError → String
  | .malformed cause line column offset =>
    s!"{cause.message}: line {line} column {column} (char {offset})"
  | .tooLong digits =>
    s!"Exceeds the limit ({maxDigits} digits) for integer string conversion: value has {digits} "
      ++ "digits; use sys.set_int_max_str_digits() to increase the limit"
  | .tooDeep holder =>
    s!"maximum recursion depth exceeded while decoding a JSON {holder.name} from a unicode string"

/-- A complaint about the last glyphs of `text`, with its place counted. -/
def Stop.locate (text : LooseText) : Stop → ReadError
  | .tooLong digits => .tooLong digits
  | .tooDeep holder => .tooDeep holder
  | .malformed cause rest =>
    let before := text.take (text.length - rest.length)
    let line := before.reverse.takeWhile (· != .char '\n')
    .malformed cause (before.count (.char '\n') + 1) (line.length + 1) before.length

/-- A whole document: one value with nothing but blanks around it. -/
def readDocument (text : LooseText) : Except Stop Json :=
  match text with
  | .char '\ufeff' :: _ => .error (.malformed .byteOrderMark text)
  | _ =>
    match readValue maxDepth (2 * text.length + 2) (skipGap text) with
    | .error stop => .error stop
    | .ok (value, rest) =>
      match skipGap rest with
      | [] => .ok value
      | rest => .error (.malformed .extraData rest)

/-- The value of a JSON text. -/
def read (text : LooseText) : Except ReadError Json :=
  (readDocument text).mapError (Stop.locate text)

end Json

end Docwright
