import Upsert.Text.Basic

/-!
# POSIX path text

The normal form of a POSIX path: empty parts and `.` parts are dropped, `..` parts are kept,
a leading `//` (exactly two slashes) is kept while one or three or more slashes become `/`, and
a path with no parts and no root is `.`.
-/

namespace Upsert.Text

/-- The parts between slashes. -/
def splitSlash (cs : List Nat) : List (List Nat) := cs.splitOn 47

/-- The normal form of a POSIX path. -/
def normalizePath (t : Text) : Text :=
  let lead := (t.points.takeWhile (· = 47)).length
  let root : List Nat := if lead = 0 then [] else if lead = 2 then [47, 47] else [47]
  let parts := (splitSlash t.points).filter fun p => !p.isEmpty && p ≠ [46]
  let body := (parts.intersperse [47]).flatten
  if root.isEmpty && body.isEmpty then ⟨[46]⟩ else ⟨root ++ body⟩

example : normalizePath "a//b/./c/" = "a/b/c" ∧ normalizePath "" = "." ∧
    normalizePath "//x" = "//x" ∧ normalizePath "///x" = "/x" := by decide

end Upsert.Text
