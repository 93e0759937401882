import RadarCatalog.Json.Token

/-!
# Reading JSON values

The reader is a machine over tokens with a stack of the containers it is inside of, so it needs no
bound besides the text.

* A `Shape` says which kinds of value are wanted at the top; the first value of another kind is
  reported before anything that follows it.
* A key that an object repeats keeps its first place and takes the last value (`Fields.put`).
* A container may stand inside at most 126 others.
-/

namespace RadarCatalog.Json

/-! ## 1. Shapes -/

/-- The kinds of value that are wanted. -/
inductive Shape where
  | any
  | object
  | listOf (item : Shape)
deriving DecidableEq

/-- The wording of what was wanted, where another kind is found. -/
def Shape.expected : Shape → String
  | .any => "a value"
  | .object => "a map"
  | .listOf _ => "a sequence"

/-! ## 2. The machine -/

/-- A container under way; the items of a list are kept last first. -/
inductive Frame where
  | list (item : Shape) (items : List Value)
  | object (fields : List (String × Value)) (key : String)

/-- What the reader wants next. -/
inductive Mode where
  /-- A value of a shape. -/
  | value (shape : Shape)
  /-- The first item of a list, or its end. -/
  | firstItem (shape : Shape)
  /-- An item after a comma. -/
  | nextItem (shape : Shape)
  /-- A comma or the end of the list. -/
  | itemEnd (shape : Shape) (items : List Value)
  /-- The first key of an object, or its end. -/
  | firstKey
  /-- A key after a comma. -/
  | nextKey (fields : List (String × Value))
  /-- The colon after a key. -/
  | colon (fields : List (String × Value)) (key : String)
  /-- A comma or the end of the object. -/
  | memberEnd (fields : List (String × Value))
  /-- Nothing more. -/
  | done (v : Value)

/-- How many containers may be open at once. -/
def maxDepth : Nat := 127

/-- Puts a finished value into the container it stands in. -/
def complete (v : Value) : List Frame → Mode × List Frame
  | [] => (.done v, [])
  | .list shape items :: stack => (.itemEnd shape (v :: items), stack)
  | .object fields key :: stack => (.memberEnd (Fields.put key v fields), stack)

/-- Opens a container inside the ones on the stack. -/
def openContainer (mode : Mode) (stack : List Frame) : Except Error (Mode × List Frame) :=
  if maxDepth ≤ stack.length then .error .tooDeep else .ok (mode, stack)

/-- A token where a value of a shape is wanted. -/
def readValue (shape : Shape) (stack : List Frame) : Token → Except Error (Mode × List Frame)
  | .scalar s =>
    match shape with
    | .any => .ok (complete (.scalar s) stack)
    | _ => .error (.wrongKind (.scalar s) shape.expected)
  | .listStart =>
    match shape with
    | .any => openContainer (.firstItem .any) stack
    | .listOf item => openContainer (.firstItem item) stack
    | .object => .error (.wrongKind .list shape.expected)
  | .objectStart =>
    match shape with
    | .any | .object => openContainer .firstKey stack
    | .listOf _ => .error (.wrongKind .object shape.expected)
  | .fault _ e => .error e
  | .listEnd | .objectEnd | .comma | .colon => .error .valueExpected

/-- A token where the first key of an object, or one after a comma, is wanted. -/
def readKey (fields : List (String × Value)) (stack : List Frame) :
    Token → Except Error (Mode × List Frame)
  | .scalar (.string key) => .ok (.colon fields key, stack)
  | .fault true e => .error e
  | _ => .error .keyExpected

/-- One token. -/
def Mode.step (mode : Mode) (stack : List Frame) (token : Token) :
    Except Error (Mode × List Frame) :=
  match mode with
  | .value shape => readValue shape stack token
  | .firstItem shape =>
    if token = .listEnd then .ok (complete (.list []) stack)
    else readValue shape (.list shape [] :: stack) token
  | .nextItem shape =>
    if token = .listEnd then .error .trailingComma else readValue shape stack token
  | .itemEnd shape items =>
    match token with
    | .comma => .ok (.nextItem shape, .list shape items :: stack)
    | .listEnd => .ok (complete (.list items.reverse) stack)
    | _ => .error .listEndExpected
  | .firstKey =>
    if token = .objectEnd then .ok (complete (.object []) stack) else readKey [] stack token
  | .nextKey fields =>
    if token = .objectEnd then .error .trailingComma else readKey fields stack token
  | .colon fields key =>
    if token = .colon then .ok (.value .any, .object fields key :: stack)
    else .error .colonExpected
  | .memberEnd fields =>
    match token with
    | .comma => .ok (.nextKey fields, stack)
    | .objectEnd => .ok (complete (.object fields) stack)
    | _ => .error .objectEndExpected
  | .done _ => .error .trailingCharacters

/-- The end of the text. -/
def Mode.finish : Mode → Except Error Value
  | .value _ | .nextItem _ | .nextKey _ => .error .endInValue
  | .firstItem _ | .itemEnd _ _ => .error .endInList
  | .firstKey | .colon _ _ | .memberEnd _ => .error .endInObject
  | .done v => .ok v

/-- The run over the tokens. -/
def readTokens (mode : Mode) (stack : List Frame) : List Token → Except Error Value
  | [] => mode.finish
  | token :: tokens =>
    match mode.step stack token with
    | .ok (mode', stack') => readTokens mode' stack' tokens
    | .error e => .error e

/-! ## 3. Reading a text -/

/-- Reads a text as one value of a shape. -/
def read (shape : Shape) (text : String) : Except Error Value :=
  readTokens (.value shape) [] (Token.scan text.toList)

end RadarCatalog.Json
