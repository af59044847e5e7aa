import ObjectSpec.Json.Basic
import ObjectSpec.Json.Reader.Numeral
import ObjectSpec.Json.Reader.Quotation

/-!
# Reading JSON documents

A document is read byte by byte. Between two bytes the reader knows the arrays
and objects around its place, innermost first, and what must follow. Each byte
either leads to the next place or is the first error of the document, and the
end of the text either completes a value or is an error of its own. Of several
members with one name the last one counts.
-/

namespace ObjectSpec
namespace Json

/-- An array or object whose next value is being read. -/
inductive Frame where
  /-- An array with its items so far, the last one first. -/
  | array (items : List Json)
  /-- An object with its members so far and the name of the next value. -/
  | object (members : List (String × Json)) (name : String)

/-- What must follow at a place. -/
inductive Place where
  /-- A value. -/
  | value
  /-- A value or the end of an array without items. -/
  | firstItem
  /-- A value, after a comma in an array. -/
  | nextItem
  /-- A name or the end of an object without members. -/
  | firstName
  /-- A name, after a comma in an object. -/
  | nextName (members : List (String × Json))
  /-- The rest of a name. -/
  | name (members : List (String × Json)) (quotation : Quotation)
  /-- The colon after a name. -/
  | colon (members : List (String × Json)) (name : String)
  /-- The rest of a literal name. -/
  | literal (rest : List Char) (value : Json)
  /-- The rest of a numeral. -/
  | numeral (numeral : Numeral)
  /-- The rest of a string. -/
  | string (quotation : Quotation)
  /-- Whatever may follow a value. -/
  | after (value : Json)

/-- A place in a document together with the arrays and objects around it. -/
structure Reader where
  /-- The arrays and objects around the place, innermost first. -/
  frames : List Frame
  /-- What must follow. -/
  place : Place

namespace Reader

/-- The place before a document. -/
def start : Reader := ⟨[], .value⟩

/-- Whether a character is blank between the parts of a document. -/
def isBlank (character : Char) : Bool :=
  character = ' ' || character = '\t' || character = '\n' || character = '\r'

/-- Begin a value. Arrays and objects may be nested to fewer than `levels`
levels. -/
def startValue (levels : Nat) (frames : List Frame) (character : Char) :
    Except SyntaxError Reader :=
  match character with
  | '"' => .ok ⟨frames, .string .start⟩
  | '[' =>
      if frames.length + 1 < levels then .ok ⟨.array [] :: frames, .firstItem⟩
      else .error .tooDeep
  | '\x7b' =>
      if frames.length + 1 < levels then .ok ⟨frames, .firstName⟩
      else .error .tooDeep
  | 't' => .ok ⟨frames, .literal ['r', 'u', 'e'] (.bool true)⟩
  | 'f' => .ok ⟨frames, .literal ['a', 'l', 's', 'e'] (.bool false)⟩
  | 'n' => .ok ⟨frames, .literal ['u', 'l', 'l'] .null⟩
  | _ =>
      match Numeral.start? character with
      | some numeral => .ok ⟨frames, .numeral numeral⟩
      | none => .error .valueExpected

/-- Go on after a complete value. -/
def stepAfter (frames : List Frame) (value : Json) (character : Char) :
    Except SyntaxError Reader :=
  if isBlank character then .ok ⟨frames, .after value⟩
  else
    match frames with
    | [] => .error .furtherText
    | .array items :: outer =>
        if character = ',' then
          .ok ⟨.array (value :: items) :: outer, .nextItem⟩
        else if character = ']' then
          .ok ⟨outer, .after (.array (value :: items).reverse)⟩
        else .error .itemSeparatorExpected
    | .object members name :: outer =>
        let extended := Entries.insert name value members
        if character = ',' then .ok ⟨outer, .nextName extended⟩
        else if character = '\x7d' then .ok ⟨outer, .after (.object extended)⟩
        else .error .memberSeparatorExpected

/-- Go on inside a string. -/
def stepQuotation
    (quotation : Quotation)
    (byte : UInt8)
    (more : Quotation → Reader)
    (closed : String → Reader) :
    Except SyntaxError Reader :=
  match quotation.step byte with
  | .ok (.more longer) => .ok (more longer)
  | .ok (.closed text) => .ok (closed text)
  | .error problem => .error problem

/-- Go on with one byte. -/
def step (levels : Nat) (reader : Reader) (byte : UInt8) :
    Except SyntaxError Reader :=
  let frames := reader.frames
  let character := Char.ofUInt8 byte
  match reader.place with
  | .value =>
      if isBlank character then .ok reader
      else startValue levels frames character
  | .firstItem =>
      if isBlank character then .ok reader
      else if character = ']' then .ok ⟨frames.tail, .after (.array [])⟩
      else startValue levels frames character
  | .nextItem =>
      if isBlank character then .ok reader
      else if character = ']' then .error .danglingComma
      else startValue levels frames character
  | .firstName =>
      if isBlank character then .ok reader
      else if character = '\x7d' then .ok ⟨frames, .after (.object [])⟩
      else if character = '"' then .ok ⟨frames, .name [] .start⟩
      else .error .nameExpected
  | .nextName members =>
      if isBlank character then .ok reader
      else if character = '"' then .ok ⟨frames, .name members .start⟩
      else if character = '\x7d' then .error .danglingComma
      else .error .nameExpected
  | .name members quotation =>
      stepQuotation quotation byte
        (fun longer => ⟨frames, .name members longer⟩)
        (fun name => ⟨frames, .colon members name⟩)
  | .colon members name =>
      if isBlank character then .ok reader
      else if character = ':' then .ok ⟨.object members name :: frames, .value⟩
      else .error .colonExpected
  | .literal [] value => stepAfter frames value character
  | .literal (expected :: rest) value =>
      if character = expected then
        .ok ⟨frames, if rest = [] then .after value else .literal rest value⟩
      else .error .misspeltLiteral
  | .numeral numeral =>
      match numeral.step character with
      | .ok (some longer) => .ok ⟨frames, .numeral longer⟩
      | .ok none =>
          match numeral.number with
          | .ok spelt => stepAfter frames (.number spelt) character
          | .error problem => .error problem
      | .error problem => .error problem
  | .string quotation =>
      stepQuotation quotation byte
        (fun longer => ⟨frames, .string longer⟩)
        (fun text => ⟨frames, .after (.string text)⟩)
  | .after value => stepAfter frames value character

/-- The value at the end of the text, if it is complete and stands alone. -/
def finishAfter (frames : List Frame) (value : Json) :
    Except SyntaxError Json :=
  match frames with
  | [] => .ok value
  | .array _ :: _ => .error .endInArray
  | .object _ _ :: _ => .error .endInObject

/-- The document at the end of the text. -/
def finish (reader : Reader) : Except SyntaxError Json :=
  match reader.place with
  | .value | .nextItem | .nextName _ => .error .endInValue
  | .firstItem => .error .endInArray
  | .firstName | .colon _ _ => .error .endInObject
  | .name _ _ | .string _ => .error .endInString
  | .literal [] value | .after value => finishAfter reader.frames value
  | .literal _ _ => .error .endInValue
  | .numeral numeral =>
      match numeral.finish with
      | .ok spelt => finishAfter reader.frames (.number spelt)
      | .error problem => .error problem

end Reader

/-- Read a document whose arrays and objects are nested to fewer than `levels`
levels. -/
def readNested (levels : Nat) (bytes : List UInt8) : Except SyntaxError Json :=
  match bytes.foldlM (Reader.step levels) Reader.start with
  | .ok reader => reader.finish
  | .error problem => .error problem

/-- The level of nesting from which on documents are refused. -/
def refusedNesting : Nat := 128

/-- Read a document from its bytes. -/
def read (bytes : List UInt8) : Except SyntaxError Json :=
  readNested refusedNesting bytes

/-- Read a document from its text. -/
def readText (text : String) : Except SyntaxError Json :=
  read text.toUTF8.toList

end Json
end ObjectSpec
