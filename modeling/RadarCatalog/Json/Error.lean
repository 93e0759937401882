import RadarCatalog.Json.Value
import RadarCatalog.Text.Quoted

/-!
# What is wrong with a JSON text

Each cause is a constructor; `Error.message` is the one place where the wording stands. An error
does not say where in the text it is: the line and the column behind the wording are left out.
-/

namespace RadarCatalog.Json

/-- What stands where another kind of value was expected. -/
inductive Found where
  | scalar (s : Scalar)
  | list
  | object
deriving DecidableEq

/-- A scalar is named with its value, a list or an object by its kind. -/
def Found.describe : Found → String
  | .scalar .null => "null"
  | .scalar (.bool b) => "boolean `" ++ (if b then "true" else "false") ++ "`"
  | .scalar (.number (.integer z)) =>
    "integer `" ++ String.ofList (Number.integer z).text ++ "`"
  | .scalar (.number (.real x)) => "floating point `" ++ String.ofList x.text ++ "`"
  | .scalar (.string s) => "string " ++ Text.quoted s
  | .list => "sequence"
  | .object => "map"

/-- What a value is found to be. -/
def Value.found : Value → Found
  | .scalar s => .scalar s
  | .list _ => .list
  | .object _ => .object

/-- The causes why a text is not read. -/
inductive Error where
  | endInValue
  | endInList
  | endInObject
  | endInString
  | valueExpected
  | wordExpected
  | colonExpected
  | listEndExpected
  | objectEndExpected
  | keyExpected
  | trailingComma
  | trailingCharacters
  | invalidNumber
  | numberOutOfRange
  | invalidEscape
  | escapePairExpected
  | loneSurrogate
  | controlCharacter
  | tooDeep
  | wrongKind (found : Found) (expected : String)
deriving DecidableEq

/-- The wording of an error. -/
def Error.message : Error → String
  | .endInValue => "EOF while parsing a value"
  | .endInList => "EOF while parsing a list"
  | .endInObject => "EOF while parsing an object"
  | .endInString => "EOF while parsing a string"
  | .valueExpected => "expected value"
  | .wordExpected => "expected ident"
  | .colonExpected => "expected `:`"
  | .listEndExpected => "expected `,` or `]`"
  | .objectEndExpected => "expected `,` or `\x7d`"
  | .keyExpected => "key must be a string"
  | .trailingComma => "trailing comma"
  | .trailingCharacters => "trailing characters"
  | .invalidNumber => "invalid number"
  | .numberOutOfRange => "number out of range"
  | .invalidEscape => "invalid escape"
  | .escapePairExpected => "unexpected end of hex escape"
  | .loneSurrogate => "lone leading surrogate in hex escape"
  | .controlCharacter => "control character (\\u0000-\\u001F) found while parsing a string"
  | .tooDeep => "recursion limit exceeded"
  | .wrongKind found expected => "invalid type: " ++ found.describe ++ ", expected " ++ expected

end RadarCatalog.Json
