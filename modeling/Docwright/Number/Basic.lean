import Docwright.Number.Shortest

/-!
# Numbers

A number is a whole number of any size or a binary fraction; the two are kept apart, because a
number is shown the way it was given.
-/

namespace Docwright

/-- A number as it was given. -/
inductive Number where
  /-- a whole number -/
  | whole (n : Int)
  /-- a binary fraction -/
  | binary (x : Binary64)
  deriving DecidableEq, Repr

namespace Number

/-- The text of a number. -/
def text : Number → String
  | .whole n => toString n
  | .binary x => x.text

/-- Is the number at most `k`? -/
def atMost (k : Int) : Number → Bool
  | .whole n => n ≤ k
  | .binary x => x.atMost k

/-- Is the number at least `k`? -/
def atLeast (k : Int) : Number → Bool
  | .whole n => k ≤ n
  | .binary x => x.atLeast k

/-- Is the number a zero? -/
def isZero : Number → Bool
  | .whole n => n = 0
  | .binary x => x.isZero

end Number

end Docwright
