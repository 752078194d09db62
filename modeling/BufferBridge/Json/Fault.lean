import BufferBridge.Decimal
import BufferBridge.Text.Quoted

/-! What can be wrong with a JSON text that should hold a certain value, and the words for it. -/
namespace BufferBridge.Json

/-- A JSON number, as far as machine numbers tell them apart. -/
inductive Number
  /-- An integer that a signed or an unsigned word of 64 bits holds. -/
  | integer (value : Int)
  /-- Every other number, and minus zero. -/
  | float (value : Float)

/-- What stands in a text where something else was expected. -/
inductive Found
  | bool (value : Bool)
  | number (value : Number)
  | text (value : String)
  | null
  | sequence
  | map

def Found.title : Found → String
  | bool true => "boolean `true`"
  | bool false => "boolean `false`"
  | number (.integer value) => s!"integer `{value}`"
  | number (.float value) => "floating point `" ++ Decimal.render value ++ "`"
  | text value => "string " ++ Quoted.quote value
  | null => "null"
  | sequence => "sequence"
  | map => "map"

/-- Why a text does not hold the expected value. -/
inductive Fault
  /-- The text is no JSON, or of a shape that no expected value has. -/
  | malformed
  /-- A name that is none of the expected ones. -/
  | unknownVariant (name : String) (expected : List String)
  /-- A field that occurs twice. -/
  | duplicateField (name : String)
  /-- A value of another type than expected. -/
  | invalidType (found : Found) (expected : String)
  /-- A value of the right type that is out of range. -/
  | invalidValue (found : Found) (expected : String)

/-- Names as a list of choices. -/
def choices : List String → String
  | [a] => "`" ++ a ++ "`"
  | [a, b] => "`" ++ a ++ "` or `" ++ b ++ "`"
  | names => "one of " ++ ", ".intercalate (names.map fun name => "`" ++ name ++ "`")

def Fault.message : Fault → String
  | malformed => "syntax"
  | unknownVariant name expected => "unknown variant `" ++ name ++ "`, expected " ++ choices expected
  | duplicateField name => "duplicate field `" ++ name ++ "`"
  | invalidType found expected => "invalid type: " ++ found.title ++ ", expected " ++ expected
  | invalidValue found expected => "invalid value: " ++ found.title ++ ", expected " ++ expected

end BufferBridge.Json
