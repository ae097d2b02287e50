import Provision.Decimal.Shortest
import Provision.Text.Quoted

/-!
# Values of a document

What a key of a document can be bound to. The instant of a date or time is not kept, because nothing
that is read from a document depends on it.
-/

namespace Provision.Toml

/-- A value. The keys of a table are distinct and stand in document order. -/
inductive Value where
  | text (content : String)
  | integer (number : Int)
  | float (number : Binary64)
  | boolean (truth : Bool)
  | dateTime
  | array (elements : List Value)
  | table (entries : List (String × Value))
  deriving Inhabited

namespace Value

/-- What a value is called where another kind of value was expected. A date counts as a map. -/
def description : Value → String
  | .text content => "string " ++ Text.quoted content
  | .integer number => s!"integer `{number}`"
  | .float number => s!"floating point `{number.text}`"
  | .boolean truth => s!"boolean `{truth}`"
  | .dateTime | .table _ => "map"
  | .array _ => "sequence"

end Value

end Provision.Toml
