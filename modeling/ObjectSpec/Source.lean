import ObjectSpec.Json.Reader
import ObjectSpec.Validation.Basic

/-!
# Sources

What is validated may come as a JSON value, as a JSON text, as the bytes of one,
or as the contents of a file. A source without an object cannot be validated at
all, which is no fault of a field.
-/

namespace ObjectSpec

/-- Something to be validated. -/
inductive Source where
  /-- A JSON value. -/
  | json (value : Json)
  /-- A JSON text. -/
  | text (contents : String)
  /-- The bytes of a JSON text. -/
  | bytes (contents : List UInt8)
  /-- The contents of a file of text, or why it could not be read. -/
  | file (contents : Except String (List UInt8))

/-- Why a source cannot be validated. -/
inductive SourceError where
  /-- The source is not a JSON document. -/
  | invalidJson (error : Json.SyntaxError)
  /-- The file could not be read. -/
  | unreadable (reason : String)
  /-- The document is not an object, but of another kind. -/
  | notObject (kind : String)
  deriving DecidableEq, Repr

/-- The wording of an unsuitable source. -/
def SourceError.message : SourceError → String
  | .invalidJson error => "Invalid JSON: " ++ error.message
  | .unreadable reason => "Failed to read file: " ++ reason
  | .notObject kind => "Expected an object to validate, received " ++ kind

namespace Source

/-- The text of a file from its bytes, which must be UTF-8. -/
def textOfFile (contents : List UInt8) : Except SourceError String :=
  match String.fromUTF8? ⟨contents.toArray⟩ with
  | some decoded => .ok decoded
  | none => .error (.unreadable "the file is not valid UTF-8")

/-- The document of a text. -/
def documentOfText (contents : String) : Except SourceError Json :=
  (Json.readText contents).mapError .invalidJson

/-- The document of a source. -/
def document : Source → Except SourceError Json
  | .json value => .ok value
  | .text contents => documentOfText contents
  | .bytes contents => (Json.read contents).mapError .invalidJson
  | .file (.error reason) => .error (.unreadable reason)
  | .file (.ok contents) =>
      match textOfFile contents with
      | .ok decoded => documentOfText decoded
      | .error error => .error error

end Source

namespace Spec

/-- Validate a JSON value, which must be an object. -/
def validateJson (spec : Spec) : Json → Except SourceError Verdict
  | .object members => .ok (spec.validate members)
  | other => .error (.notObject other.kindName)

/-- Validate a source. -/
def validateSource (spec : Spec) (source : Source) :
    Except SourceError Verdict :=
  match source.document with
  | .ok value => spec.validateJson value
  | .error error => .error error

end Spec
end ObjectSpec
