/-
  TokenThrottle.Factories.TokenCounter

  The counting of chat messages and of structured input items in
  `_factories/_openai/_token_counter.py`.

  * `Value` is what a request can hold where the counter looks: JSON trees, and beside them
    the tuples and the objects of other types that `json.dumps` and `isinstance` tell apart.
  * Every error of these functions is a `ValueError`; `CountError` says which.
  * `on_unsupported_part` is left out: only the variables of a stored prompt pass it.
  * The interpreter's recursion limit is not modelled.
-/
import Mathlib.Algebra.GroupWithZero.Nat
import Mathlib.Data.List.Basic
import Mathlib.Data.Int.Notation
import Mathlib.Logic.Relation

namespace TokenThrottle.TokenCounter

/-! ## Values -/

inductive Number
  | int (value : ℤ)
  /-- A float, by its `repr`. -/
  | float (repr : String)
deriving DecidableEq

/-- A key of a Python dictionary. -/
inductive DictKey
  | str (key : String)
  | none
  | bool (key : Bool)
  | number (key : Number)
  | other
deriving DecidableEq

inductive Value
  | none
  | bool (value : Bool)
  | number (value : Number)
  | str (text : String)
  | list (items : List Value)
  | tuple (items : List Value)
  | dict (entries : List (DictKey × Value))
  /-- An object of any other type. -/
  | other (typeName : String)

abbrev Entries : Type := List (DictKey × Value)

/-- `type(value).__name__` -/
def Value.typeName : Value → String
  | .none => "NoneType"
  | .bool _ => "bool"
  | .number (.int _) => "int"
  | .number (.float _) => "float"
  | .str _ => "str"
  | .list _ => "list"
  | .tuple _ => "tuple"
  | .dict _ => "dict"
  | .other typeName => typeName

/-- `str(value)` -/
def Number.text : Number → String
  | .int value => toString value
  | .float repr => repr

def DictKey.isStr : DictKey → Bool
  | .str _ => true
  | _ => false

/-- `value.get(key)` -/
def get (entries : Entries) (key : String) : Option Value :=
  entries.lookup (.str key)

/-! ## Errors -/

inductive CountError
  | invalid (message : String)
  | unsupportedContentPart (partType : String)

def CountError.message : CountError → String
  | .invalid message => message
  | .unsupportedContentPart partType =>
    "Structured content part type '" ++ partType ++ "' is not supported by "
      ++ "OpenAIUsageCounter; pass usage manually for non-text inputs."

/-! ## `json.dumps` -/

section Json

def hexDigits (code : ℕ) : String :=
  String.ofList ((Nat.toDigits 16 code).leftpad 4 '0')

/-- A character of a JSON string, as `ensure_ascii` escapes it. -/
def jsonChar (c : Char) : String :=
  match c.toNat with
  | 0x22 => "\\\""
  | 0x5c => "\\\\"
  | 0x0a => "\\n"
  | 0x0d => "\\r"
  | 0x09 => "\\t"
  | 0x0c => "\\f"
  | 0x08 => "\\b"
  | code =>
    if 0x20 ≤ code ∧ code ≤ 0x7e then c.toString
    else if code < 0x10000 then "\\u" ++ hexDigits code
    else
      -- a surrogate pair
      "\\u" ++ hexDigits (0xd800 + (code - 0x10000) / 0x400)
        ++ "\\u" ++ hexDigits (0xdc00 + (code - 0x10000) % 0x400)

def jsonString (text : String) : String :=
  "\"" ++ String.join (text.toList.map jsonChar) ++ "\""

def jsonBool (value : Bool) : String :=
  if value then "true" else "false"

def Number.json : Number → String
  | .int value => toString value
  | .float "nan" => "NaN"
  | .float "inf" => "Infinity"
  | .float "-inf" => "-Infinity"
  | .float repr => repr

/-- The name of a member; `none` is the `TypeError` of a key that has none. -/
def DictKey.json : DictKey → Option String
  | .str key => some (jsonString key)
  | .none => some (jsonString "null")
  | .bool key => some (jsonString (jsonBool key))
  | .number key => some (jsonString key.json)
  | .other => Option.none

mutual

/-- `json.dumps(value)`; `none` is its `TypeError`. -/
def jsonDumps : Value → Option String
  | .none => some "null"
  | .bool value => some (jsonBool value)
  | .number value => some value.json
  | .str text => some (jsonString text)
  | .list items | .tuple items => do
    let parts ← jsonDumpsItems items
    return "[" ++ ", ".intercalate parts ++ "]"
  | .dict entries => do
    let parts ← jsonDumpsEntries entries
    return "\x7b" ++ ", ".intercalate parts ++ "\x7d"
  | .other _ => Option.none

def jsonDumpsItems : List Value → Option (List String)
  | [] => some []
  | item :: items => do
    let part ← jsonDumps item
    let parts ← jsonDumpsItems items
    return part :: parts

def jsonDumpsEntries : List (DictKey × Value) → Option (List String)
  | [] => some []
  | (key, value) :: entries => do
    let name ← key.json
    let part ← jsonDumps value
    let parts ← jsonDumpsEntries entries
    return (name ++ ": " ++ part) :: parts

end

end Json

/-! ## The counter -/

/-- A tokenizer: what `encode(text, disallowed_special=())` returns. -/
structure Encoding where
  encode : String → List ℕ

def encodeLen (encoding : Encoding) (text : String) : ℕ :=
  (encoding.encode text).length

/-- `_UNSUPPORTED_CONTENT_PART_TYPES` -/
def unsupportedContentPartTypes : List String :=
  ["input_audio", "input_file", "input_image", "output_audio", "output_image",
    "computer_use_screenshot"]

/-- `_UNSUPPORTED_CONTENT_FIELDS` -/
def unsupportedContentFields : List String :=
  ["audio", "audio_url", "file", "file_id", "file_url", "image", "image_url"]

/-- The type of an entry that is one of the unsupported part types. -/
def unsupportedType (entries : Entries) : Option String :=
  match get entries "type" with
  | some (.str partType) => if partType ∈ unsupportedContentPartTypes then some partType else none
  | _ => none

/-- `_get_unsupported_content_part_name` -/
def getUnsupportedContentPartName (entries : Entries) : Option String :=
  match unsupportedType entries with
  | some partType => some partType
  | none => unsupportedContentFields.find? fun field => (get entries field).isSome

mutual

/-- `_check_nested_unsupported_content` -/
def checkNestedUnsupportedContent : Value → Option String
  | .dict entries =>
    match unsupportedType entries with
    | some partType => some partType
    | none => checkNestedEntries entries
  | .list items => checkNestedItems items
  | _ => none

def checkNestedItems : List Value → Option String
  | [] => none
  | item :: items => checkNestedUnsupportedContent item <|> checkNestedItems items

def checkNestedEntries : List (DictKey × Value) → Option String
  | [] => none
  | (_, nested) :: entries => checkNestedUnsupportedContent nested <|> checkNestedEntries entries

end

def countJsonSerializedTokens (encoding : Encoding) (value : Value) (invalidError : String) :
    Except CountError ℕ :=
  match jsonDumps value with
  | some serialized => .ok (encodeLen encoding serialized)
  | none => .error (.invalid invalidError)

section Fragments

variable (encoding : Encoding) (invalidError : String)

mutual

/-- `_count_text_fragments` -/
def countTextFragments (contentPartContext coerceScalars : Bool) : Value → Except CountError ℕ
  | .none => .ok 0
  | .str text => .ok (encodeLen encoding text)
  | .bool value =>
    if coerceScalars then .ok (encodeLen encoding (jsonBool value))
    else .error (.invalid invalidError)
  | .number value =>
    if coerceScalars then .ok (encodeLen encoding value.text)
    else .error (.invalid invalidError)
  | .list items => countItems contentPartContext coerceScalars items
  | .dict entries =>
    if ¬ entries.all (fun entry => entry.1.isStr) then .error (.invalid invalidError)
    else
      match if contentPartContext then getUnsupportedContentPartName entries else none with
      | some name => .error (.unsupportedContentPart name)
      | none =>
        match get entries "type" with
        | some (.str _) =>
          match get entries "text" with
          | some (.str text) => .ok (encodeLen encoding text)
          | some _ => .error (.invalid invalidError)
          | none =>
            match countContent contentPartContext coerceScalars entries with
            | some count => count
            | none => countEntries contentPartContext coerceScalars entries
        | _ => .error (.invalid invalidError)
  | .tuple _ | .other _ => .error (.invalid invalidError)

def countItems (contentPartContext coerceScalars : Bool) : List Value → Except CountError ℕ
  | [] => .ok 0
  | item :: items => do
    let count ← countTextFragments contentPartContext coerceScalars item
    let rest ← countItems contentPartContext coerceScalars items
    return count + rest

/-- The count of `value["content"]`, where that key is there. -/
def countContent (contentPartContext coerceScalars : Bool) :
    List (DictKey × Value) → Option (Except CountError ℕ)
  | [] => none
  | (key, value) :: entries =>
    if key = .str "content" then some (countTextFragments contentPartContext coerceScalars value)
    else countContent contentPartContext coerceScalars entries

def countEntries (contentPartContext coerceScalars : Bool) :
    List (DictKey × Value) → Except CountError ℕ
  | [] => .ok 0
  | (key, value) :: entries => do
    let count ← countTextFragments (contentPartContext && key == .str "content")
      (coerceScalars && key != .str "content") value
    let rest ← countEntries contentPartContext coerceScalars entries
    return count + rest

end

end Fragments

def messageError : String := "All keys and values in messages must be of type str"

/-- The keys of a message whose values are counted as JSON. -/
def isCallKey (key : DictKey) : Bool :=
  [.str "tool_calls", .str "function_call"].contains key

def countMessageValue (encoding : Encoding) (entry : DictKey × Value) : Except CountError ℕ :=
  if isCallKey entry.1 then
    countJsonSerializedTokens encoding entry.2 messageError
  else
    countTextFragments encoding messageError (entry.1 == .str "content")
      (entry.1 != .str "content") entry.2

/-- What one entry of a message adds. -/
def countMessageEntry (encoding : Encoding) (entry : DictKey × Value) : Except CountError ℕ := do
  let count ← countMessageValue encoding entry
  return count + if entry.1 = .str "name" then 1 else 0

def countMessage (encoding : Encoding) (message : Entries) : Except CountError ℕ :=
  if ¬ message.all (fun entry => entry.1.isStr) then
    .error (.invalid "All message dict keys must be strings")
  else do
    let counts ← message.mapM (countMessageEntry encoding)
    return 3 + counts.sum

/-- `count_chat_input_tokens` -/
def countChatInputTokens (encoding : Encoding) (messages : List Entries) :
    Except CountError ℕ := do
  let counts ← messages.mapM (countMessage encoding)
  return counts.sum + 3

def looksLikeMessage (value : Entries) : Bool :=
  (get value "role").isSome

/-- The check of an item that is no message. -/
def checkStructuredItem (item : Entries) : Except CountError Unit :=
  match getUnsupportedContentPartName item <|> checkNestedUnsupportedContent (.dict item) with
  | some name => .error (.unsupportedContentPart name)
  | none => .ok ()

def structuredInputError (input : Value) : String :=
  "The value of 'input' must be of type str or a list/dict of structured input items (got "
    ++ input.typeName ++ ")"

def Value.entries? : Value → Option Entries
  | .dict entries => some entries
  | _ => Option.none

/-- `count_structured_input_tokens` -/
def countStructuredInputTokens (encoding : Encoding) (input : Value) : Except CountError ℕ :=
  match input with
  | .dict entries =>
    if looksLikeMessage entries then countChatInputTokens encoding [entries]
    else do
      checkStructuredItem entries
      countJsonSerializedTokens encoding input (structuredInputError input)
  | .list values =>
    match values.mapM Value.entries? with
    | none => .error (.invalid (structuredInputError input))
    | some items =>
      let messageItems := items.filter looksLikeMessage
      if messageItems.length = items.length then countChatInputTokens encoding items
      else if messageItems = [] then do
        items.forM checkStructuredItem
        countJsonSerializedTokens encoding input (structuredInputError input)
      else do
        -- a mixed list is counted in two parts
        let structuredItems := items.filter (fun item => !looksLikeMessage item)
        structuredItems.forM checkStructuredItem
        let chat ← countChatInputTokens encoding messageItems
        let structured ← countJsonSerializedTokens encoding (.list (structuredItems.map .dict))
          (structuredInputError input)
        return chat + structured
  | _ => .error (.invalid (structuredInputError input))

end TokenThrottle.TokenCounter
