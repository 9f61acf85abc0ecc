import Triage.Text.Basic

/-!
# Files

The files that a program finds, each under the names that lead to it from the root. A path as
written is read from a directory: dots for this and the parent directory are resolved by the names
alone.
-/

namespace Triage

/-- The names that lead from the root to a file. -/
abbrev Path := List String

namespace Path

/-- A path as text. -/
def text (p : Path) : String := "/" ++ Text.join "/" p

/-- Goes on from a path by one name of a path as written. -/
def step (p : Path) (name : String) : Path :=
  if name = "" ∨ name = "." then p else if name = ".." then p.dropLast else p ++ [name]

/-- A path as written, read from a directory. -/
def resolve (directory : Path) (s : String) : Path :=
  (Text.split '/' s).foldl step (if Text.startsWith s "/" then [] else directory)

end Path

/-- What stands under a path. -/
inductive Entry where
  | directory
  | file (bytes : List UInt8)
  deriving DecidableEq, Repr

/-- The files there are. -/
abbrev Files := List (Path × Entry)

namespace Files

/-- What stands under a path, if anything does. -/
def get? (files : Files) (p : Path) : Option Entry := files.lookup p

/-- Takes away what stands under a path. -/
def remove (files : Files) (p : Path) : Files := files.filter fun f => f.1 ≠ p

/-- Makes the directories that lead to a path. -/
def makeWay (files : Files) (p : Path) : Files :=
  (List.range p.length).foldl
    (fun files n =>
      if (get? files (p.take n)).isSome then files else (p.take n, .directory) :: files)
    files

/-- Puts an entry under a path, in place of what stands there. -/
def put (files : Files) (p : Path) (entry : Entry) : Files :=
  (p, entry) :: remove (makeWay files p) p

/-- What was put under a path stands there. -/
theorem get?_put (files : Files) (p : Path) (entry : Entry) :
    (files.put p entry).get? p = some entry := by
  simp [put, get?]

end Files

end Triage
