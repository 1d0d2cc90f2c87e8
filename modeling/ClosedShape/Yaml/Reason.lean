import ClosedShape.Fault
/-!
# Why a YAML text cannot be read

Most reasons are breaches of the rules of YAML.  A fault is what those rules do not foresee: a text
that fits its tag nowhere, a number out of range, a key that cannot be looked up.  Which of the two
a text meets is up to the library that this reader stands for.
-/

namespace ClosedShape.Yaml

/-- Why a YAML text cannot be read. -/
inductive Reason where
  | specialCharacter
  | noTokenStart
  | keyWithoutValue
  | entryNotAllowed
  | keyNotAllowed
  | valueNotAllowed
  | invalidDirective
  | invalidAnchor
  | invalidTag
  | invalidBlockHeader
  /-- The first empty lines of a block scalar are indented less than what follows. -/
  | growingIndentation
  | invalidEscape
  | unterminatedScalar
  | documentMarkInScalar
  | nodeExpected
  | blockEndExpected
  | separatorExpected
  | documentStartExpected
  | severalDocuments
  | undefinedTagHandle
  | undefinedAlias
  | unknownTag
  | unfitTag
  | unhashableKey
  | duplicateKey
  | invalidMerge
  | invalidBinary
  | invalidTimestamp
  /-- A collection contains itself. -/
  | endless
  | faulty (fault : Fault)
deriving DecidableEq, Repr, Inhabited

def Reason.text : Reason → Text
  | .specialCharacter => "special characters are not allowed"
  | .noTokenStart => "found a character that cannot start any token"
  | .keyWithoutValue => "could not find expected ':'"
  | .entryNotAllowed => "sequence entries are not allowed here"
  | .keyNotAllowed => "mapping keys are not allowed here"
  | .valueNotAllowed => "mapping values are not allowed here"
  | .invalidDirective => "found an invalid directive"
  | .invalidAnchor => "found an invalid anchor or alias"
  | .invalidTag => "found an invalid tag"
  | .invalidBlockHeader => "found an invalid block scalar header"
  | .growingIndentation => "more indented follow up line than first in a block scalar"
  | .invalidEscape => "found an unknown escape character"
  | .unterminatedScalar => "found unexpected end of stream"
  | .documentMarkInScalar => "found unexpected document separator"
  | .nodeExpected => "expected the node content"
  | .blockEndExpected => "expected <block end>"
  | .separatorExpected => "expected ',' or a closing bracket"
  | .documentStartExpected => "expected '<document start>'"
  | .severalDocuments => "expected a single document in the stream"
  | .undefinedTagHandle => "found undefined tag handle"
  | .undefinedAlias => "found undefined alias"
  | .unknownTag => "could not determine a constructor for the tag"
  | .unfitTag => "expected another kind of node for the tag"
  | .unhashableKey => "found unhashable key"
  | .duplicateKey => "found duplicate key"
  | .invalidMerge => "expected a mapping or list of mappings for merging"
  | .invalidBinary => "failed to decode base64 data"
  | .invalidTimestamp => "failed to construct timestamp"
  | .endless => "found a collection inside itself"
  | .faulty fault => fault.message

/-- A result whose failures are faults of reading. -/
def Reason.ofFault {α : Type} : Except Fault α → Except Reason α
  | .ok result => .ok result
  | .error fault => .error (.faulty fault)

end ClosedShape.Yaml
