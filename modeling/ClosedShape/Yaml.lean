import ClosedShape.Yaml.Assembly
import ClosedShape.Yaml.Node.Reader
/-!
# Reading YAML

Reads YAML documents as plain values.  The rules are those of version 1.2, or of version 1.1 where a
document asks for them, as the library `ruamel.yaml` has them, which these modules stand for.  What
is said of YAML documents elsewhere is said of this reader.
-/

namespace ClosedShape.Yaml

/-- Reads the only document of a text.  A text without a document is read as `null`. -/
def read (text : List Char) : Except Reason Value := do
  let (lexed, ending) := tokens text
  let (stream, root) ← readNodes lexed ending
  match root with
  | some root => stream.graph.value stream.version root
  | none => return .null

end ClosedShape.Yaml
