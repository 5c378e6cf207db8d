import Docwright.Text.Quoted

/-!
# Errors of the file system

The reasons for which the file system turns down what is asked of it here. Links, special files,
full disks and disturbances from outside are left out, and so are their reasons.
-/

namespace Docwright

namespace Files

/-- What the file system can refuse. -/
inductive Refusal where
  /-- there is nothing under this name -/
  | noEntry
  /-- what is there may not be used in this way -/
  | denied
  /-- there is something under this name -/
  | exists
  /-- a directory was expected and something else found -/
  | notDirectory
  /-- a directory was found and something else expected -/
  | isDirectory
  /-- a name or a whole path is too long -/
  | nameTooLong
  deriving DecidableEq, Repr

/-- The number of a refusal. -/
def Refusal.code : Refusal → Nat
  | .noEntry => 2
  | .denied => 13
  | .exists => 17
  | .notDirectory => 20
  | .isDirectory => 21
  | .nameTooLong => 36

/-- The wording of a refusal. -/
def Refusal.wording : Refusal → String
  | .noEntry => "No such file or directory"
  | .denied => "Permission denied"
  | .exists => "File exists"
  | .notDirectory => "Not a directory"
  | .isDirectory => "Is a directory"
  | .nameTooLong => "File name too long"

/-- A refusal and the path that was asked for. -/
structure SystemError where
  /-- what was refused -/
  refusal : Refusal
  /-- the path as it was given -/
  path : LooseText
  deriving DecidableEq, Repr

/-- The wording of a system error. -/
def SystemError.message (e : SystemError) : String :=
  "[Errno " ++ toString e.refusal.code ++ "] " ++ e.refusal.wording ++ ": " ++ Text.quoted e.path

end Files

end Docwright
