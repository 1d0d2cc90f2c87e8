/-!
# Versions of YAML

A document can say which version of YAML it is written in.  The versions differ in what plain
scalars are read as, and in a few places where keys and marks can stand.
-/

namespace ClosedShape.Yaml

structure Version where
  major : Nat
  minor : Nat
deriving DecidableEq, Repr, Inhabited

namespace Version

/-- The version that still has words such as `yes` for truth values, and numbers to the base of
sixty. -/
def early : Version := ⟨1, 1⟩

/-- The version of documents that do not name theirs. -/
def usual : Version := ⟨1, 2⟩

/-- Whether a version comes after the early one. -/
def isLater (version : Version) : Bool :=
  early.major < version.major || (early.major = version.major && early.minor < version.minor)

/-- The source text of a version as a pair. -/
def source (version : Version) : String := s!"({version.major}, {version.minor})"

end Version

end ClosedShape.Yaml
