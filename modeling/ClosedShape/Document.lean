import ClosedShape.FileTree
import ClosedShape.Json.Reader
import ClosedShape.Log
import ClosedShape.Text.LowerCase
import ClosedShape.Text.Utf8
import ClosedShape.Toml
import ClosedShape.Yaml
/-!
# Configuration documents

Loads a document from a file, in the format that the suffix of the file says.
-/

namespace ClosedShape

inductive DocumentFormat where
  | json
  | toml
  | yaml
  | yml
deriving DecidableEq, Repr, Inhabited

namespace DocumentFormat

def name : DocumentFormat → String
  | .json => "json"
  | .toml => "toml"
  | .yaml => "yaml"
  | .yml => "yml"

/-- The name that errors show. -/
def title : DocumentFormat → String
  | .json => "JSON"
  | .toml => "TOML"
  | .yaml => "YAML"
  | .yml => "YML"

def all : List DocumentFormat := [.json, .toml, .yaml, .yml]

def suffix (format : DocumentFormat) : String := "." ++ format.name

def ofSuffix? (suffix : String) : Option DocumentFormat :=
  all.find? fun format => format.suffix == suffix

end DocumentFormat

/-- What is wrong with a document. -/
inductive DocumentProblem where
  /-- The suffix names no format; `shown` is the suffix, or the whole name where there is none. -/
  | unsupported (shown : String)
  | notFound
  | notUtf8 (error : Text.Utf8Error)
  | unreadable (error : SystemError)
  | malformed (format : DocumentFormat) (detail : Text)
deriving Repr, Inhabited

def DocumentProblem.text : DocumentProblem → Text
  | .unsupported shown =>
      let suffixes := ", ".intercalate (DocumentFormat.all.map DocumentFormat.suffix)
      s!"unsupported format '{shown}' (expected one of {suffixes})"
  | .notFound => "file not found"
  | .notUtf8 error => "not valid UTF-8: " ++ error.message
  | .unreadable error => "cannot read file: " ++ error.reason
  | .malformed format detail => "invalid " ++ format.title ++ ": " ++ detail

structure DocumentError where
  path : FilePath
  problem : DocumentProblem
deriving Repr, Inhabited

def DocumentError.message (error : DocumentError) : Text :=
  error.path.toString ++ ": " ++ error.problem.text

/-- Why a document cannot be loaded. -/
inductive LoadFailure where
  | document (error : DocumentError)
  | faulty (fault : Fault)
  /-- The system cannot even say whether the file is there. -/
  | system (error : SystemError)
deriving Inhabited

namespace Document

def logger : String := "shapectl.infrastructure.documents"

/-- Why the content of a file cannot be read. -/
inductive DecodeFailure where
  | problem (problem : DocumentProblem)
  | faulty (fault : Fault)
deriving Inhabited

/-- The value that a text stands for in a format. -/
def parse (format : DocumentFormat) (text : List Char) : Except DecodeFailure Value :=
  match format with
  | .json =>
      match Json.read text with
      | .ok value => .ok value
      | .error (.malformed reason remaining) =>
          .error (.problem (.malformed format (Json.describe text reason remaining)))
      | .error (.faulty fault) => .error (.faulty fault)
  | .toml =>
      match Toml.read text with
      | .ok value => .ok value
      | .error (.malformed reason remaining) =>
          .error (.problem (.malformed format (Toml.describe text reason remaining)))
      | .error (.faulty fault) => .error (.faulty fault)
  | .yaml | .yml =>
      match Yaml.read text with
      | .ok value => .ok value
      | .error (.faulty fault) => .error (.faulty fault)
      | .error reason => .error (.problem (.malformed format reason.text))

/-- The value in the bytes of a file. -/
def decode (format : DocumentFormat) (bytes : List UInt8) : Except DecodeFailure Value :=
  match Text.decodeUtf8 bytes with
  | .ok text => parse format (Text.unifyNewlines text)
  | .error error => .error (.problem (.notUtf8 error))

/-- The value in a file. -/
def read (tree : FileTree) (path : FilePath) (format : DocumentFormat) :
    Except DecodeFailure Value :=
  match tree.read path with
  | .ok bytes => decode format bytes
  | .error error => .error (.problem (.unreadable error))

/-- Loads a document. -/
def load (tree : FileTree) (path : FilePath) : Logged LoadFailure Value := do
  let refuse := fun problem => Logged.fail (LoadFailure.document ⟨path, problem⟩)
  let suffix := Text.lowerCase path.suffix
  match DocumentFormat.ofSuffix? suffix with
  | none => refuse (.unsupported (if suffix.isEmpty then path.name else suffix))
  | some format =>
      match tree.isFile path with
      | .error error => .fail (.system error)
      | .ok false => refuse .notFound
      | .ok true => do
          .report .debug logger s!"Loading {format.name} document from {path.toString}"
          match read tree path format with
          | .ok value => return value
          | .error (.problem problem) => refuse problem
          | .error (.faulty fault) => .fail (.faulty fault)

end Document

end ClosedShape
