import Docwright.Files.SystemError
import Docwright.Json.Reader
import Docwright.Text.Utf8

/-!
# Crashes

Faults that no part of the library recovers from. They end whatever was being done.
-/

namespace Docwright

/-- A fault that ends what was being done. -/
inductive Crash where
  /-- the content of a reply is a value of the wrong kind -/
  | content (kind : Json.Kind)
  /-- a reply holds a whole number of too many digits -/
  | longNumber (digits : Nat)
  /-- a JSON text nests its values too deep -/
  | deepNesting (holder : Json.Holder)
  /-- a text has no bytes -/
  | unencodable (error : Text.Utf8.EncodeError)
  /-- a batch is given no workers -/
  | noWorkers
  /-- a path holds the null character -/
  | nullByte
  /-- directories stand in each other too deep to be listed -/
  | deepDirectories
  /-- an indent is too wide to be counted -/
  | wideIndent
  /-- the file system refused -/
  | system (error : Files.SystemError)
  deriving DecidableEq, Repr

/-- The wording of a crash. -/
def Crash.message : Crash → String
  | .content kind => "expected string or bytes-like object, got '" ++ kind.name ++ "'"
  | .longNumber digits => (Json.ReadError.tooLong digits).message
  | .deepNesting holder => (Json.ReadError.tooDeep holder).message
  | .unencodable error => error.message
  | .noWorkers => "max_workers must be greater than 0"
  | .nullByte => "embedded null byte"
  | .deepDirectories => "maximum recursion depth exceeded"
  | .wideIndent => "cannot fit 'int' into an index-sized integer"
  | .system error => error.message

end Docwright
