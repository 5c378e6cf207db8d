import Docwright.Documentation.Heading

/-!
# Functionality claims

Claims are judged from words in the routine's text, case ignored. They do not depend on each other
and always come out in the same order.
-/

namespace Docwright

/-- A claim and the words that speak for it. -/
structure Claim where
  /-- groups of words; of every group one has to occur -/
  signs : List (List String)
  /-- the sentence -/
  sentence : String

/-- The claims that can be made about a routine, in order. -/
def claims : List Claim :=
  [⟨[["json.loads", "json.dumps"]], "Processes JSON data for serialization or deserialization."⟩,
   ⟨[["for "], ["in "]], "Iterates through collections to process multiple items."⟩,
   ⟨[["try"], ["except"]], "Implements error handling for robust execution."⟩,
   ⟨[["logging."]], "Provides logging for debugging and monitoring."⟩,
   ⟨[["return "]], "Returns processed data to the caller."⟩,
   ⟨[["dict(", "\x7b\x7d"]], "Organizes data using dictionary structures."⟩,
   ⟨[["list(", "[]"]], "Manages collections of data using lists."⟩]

/-- Do the words of a claim occur in the text? -/
def Claim.holds (claim : Claim) (text : List Char) : Bool :=
  claim.signs.all fun group => group.any fun sign => Text.occurs sign.toList text

namespace Routine

/-- The claims about a routine, or two general ones when none holds. -/
def functionality (r : Routine) : List String :=
  let text := Text.lower r.source.toList
  let found := (claims.filter (·.holds text)).map (·.sentence)
  if found.isEmpty then
    ["Processes input parameters to perform " ++ spaced r.name ++ " operations.",
     "Returns results based on the given inputs."]
  else found

end Routine

end Docwright
