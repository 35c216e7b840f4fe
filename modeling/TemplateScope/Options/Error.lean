import TemplateScope.Decimal.Layout
import TemplateScope.Json.Number
import TemplateScope.Text.Quoted

/-!
# What may be wrong with an options text

A text may break the rules of JSON, stop too early, or be right so far and say something that
options cannot be.
-/

namespace TemplateScope

namespace Options

inductive Field where
  | moduleName
  | strictMode
deriving DecidableEq, Repr

namespace Field

def key : Field → String
  | .moduleName => "moduleName"
  | .strictMode => "strictMode"

/-- The member of a key as it is after decoding. -/
def ofKey? (key : List Char) : Option Field :=
  if key = Field.moduleName.key.toList then some .moduleName
  else if key = Field.strictMode.key.toList then some .strictMode
  else none

theorem ofKey?_key (f : Field) : ofKey? f.key.toList = some f := by
  cases f <;> decide

end Field

inductive Found where
  | null
  | boolean (value : Bool)
  | number (value : Json.Number)
  | string (value : String)
  | sequence
  | map
deriving DecidableEq, Repr

inductive Expected where
  | string
  | boolean
  | options
deriving DecidableEq, Repr

inductive DataError where
  | duplicateField (field : Field)
  | invalidType (found : Found) (expected : Expected)
deriving DecidableEq, Repr

inductive ReadError where
  | text (fault : Json.Fault)
  | data (error : DataError)
deriving DecidableEq, Repr

def Found.describe : Found → String
  | .null => "null"
  | .boolean value => s!"boolean `{value}`"
  | .number (.integer value) => s!"integer `{value}`"
  | .number (.double bits) => s!"floating point `{Decimal.showDouble bits}`"
  | .string value => s!"string {Quoted.quote value}"
  | .sequence => "sequence"
  | .map => "map"

def Expected.describe : Expected → String
  | .string => "a string"
  | .boolean => "a boolean"
  | .options => "struct CompileOptions"

def DataError.message : DataError → String
  | .duplicateField field => s!"duplicate field `{field.key}`"
  | .invalidType found expected => s!"invalid type: {found.describe}, expected {expected.describe}"

end Options

end TemplateScope
