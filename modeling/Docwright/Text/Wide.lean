import Docwright.Text.Glyph

/-!
# Texts in wide units

The texts of bytes that stand in twos or fours for the units of UTF-16 and UTF-32. A surrogate
without its partner is read, too, so these texts are loose.
-/

namespace Docwright.Text.Wide

/-- The order of the bytes of a unit. -/
inductive ByteOrder where
  /-- the lowest byte first -/
  | little
  /-- the highest byte first -/
  | big
  deriving DecidableEq, Repr

/-- The number of some bytes, the highest first. -/
def valueOf (bytes : List UInt8) : Nat :=
  bytes.foldl (fun n b => n * 256 + b.toNat) 0

/-- The unit of some bytes. -/
def ByteOrder.unit : ByteOrder → List UInt8 → Nat
  | .little, bytes => valueOf bytes.reverse
  | .big, bytes => valueOf bytes

/-- The units of two bytes each, if no byte is left over. -/
def units16? (order : ByteOrder) : List UInt8 → Option (List Nat)
  | [] => some []
  | a :: b :: rest => (units16? order rest).map (order.unit [a, b] :: ·)
  | _ => none

/-- The units of four bytes each, if no byte is left over. -/
def units32? (order : ByteOrder) : List UInt8 → Option (List Nat)
  | [] => some []
  | a :: b :: c :: d :: rest => (units32? order rest).map (order.unit [a, b, c, d] :: ·)
  | _ => none

/-- The text of units of UTF-16. -/
def joinPairs : List Nat → LooseText
  | [] => []
  | [unit] => [.ofCode unit]
  | high :: low :: rest =>
    if isHighSurrogate high && isLowSurrogate low then .char (ofPair high low) :: joinPairs rest
    else .ofCode high :: joinPairs (low :: rest)

/-- The text of bytes in UTF-16. -/
def decode16? (order : ByteOrder) (bytes : List UInt8) : Option LooseText :=
  (units16? order bytes).map joinPairs

/-- The text of bytes in UTF-32. -/
def decode32? (order : ByteOrder) (bytes : List UInt8) : Option LooseText := do
  let units ← units32? order bytes
  if units.all (· < 0x110000) then some (units.map .ofCode) else none

end Docwright.Text.Wide
