import Docwright.Schema
import Docwright.Web.StandIn

/-!
# Orders

What the document of a request asks for: a source text with a label, and perhaps the name of one
function in it.
-/

namespace Docwright

namespace Web

/-- What a request asks for. -/
structure Order where
  /-- the source text -/
  source : LooseText
  /-- the label of the source text -/
  fileName : String := "<input>"
  /-- the name of the functions to document -/
  function : Option String := none
  deriving DecidableEq, Repr

/-- The stand-ins for the surrogates of the source text. -/
def Order.standIns (o : Order) : StandIns :=
  .ofText o.source

/-- The source text with the stand-ins in it. -/
def Order.text (o : Order) : String :=
  o.standIns.hide o.source

/-- The most characters of a label or a name. -/
def textLimit : Nat := 255

/-- A source text with a label. -/
def sourceFields : Schema.Check (Option String → Order) := fun place v =>
  Schema.Checked.ap
    ((Schema.required "source" Schema.string place v).map fun source fileName function =>
      ⟨source, fileName, function⟩)
    (Schema.optional "filename" "<input>" (Schema.boundedString 1 (some textLimit)) place v)

/-- The order of a request for extraction. -/
def extractionOrder : Schema.Check Order :=
  Schema.object "ExtractRequest" fun place v =>
    (sourceFields place v).map fun order => order none

/-- The order of a request for documentation. -/
def documentationOrder : Schema.Check Order :=
  Schema.object "DocumentRequest" fun place v =>
    let name := Schema.boundedString 0 (some textLimit)
    Schema.Checked.ap (sourceFields place v)
      (Schema.optional "function" none (Schema.nullable name) place v)

end Web

end Docwright
