import GrammarCorpus.Text.Scan

namespace GrammarCorpus

/-!
# Paths

A path is an anchor and a list of parts. Reading a path drops empty parts and
parts that are a single point, so that paths which differ only in these are equal.
Two points stay: whether they lead back to where a walk came from is known to a
file tree alone. A path that begins with exactly two slashes keeps both.

`Path.collapse` resolves the two points without looking at a tree; it is meant for
the names of programs, which are anchored before anything is started.
-/

/-- Where a path starts. -/
inductive Anchor where
  /-- At the working directory. -/
  | relative
  /-- At the root. -/
  | root
  /-- At the root, written with two slashes. -/
  | doubleRoot
deriving DecidableEq, Repr

namespace Anchor

/-- The slashes in front of the first part. -/
def text : Anchor → String
  | relative => ""
  | root => "/"
  | doubleRoot => "//"

/-- The anchor written by so many slashes. -/
def ofSlashes : Nat → Anchor
  | 0 => relative
  | 2 => doubleRoot
  | _ => root

end Anchor

/-- A path, as written. -/
structure Path where
  anchor : Anchor
  parts : List String
deriving DecidableEq, Repr

/-- Whether a text cannot be handed to the operating system. -/
def FileWork.holdsNull (text : String) : Bool :=
  text.toList.contains (Char.ofNat 0)

namespace Path

/-- Whether a part says something about the place. -/
def isPart (part : List Char) : Bool :=
  part ≠ [] && part ≠ ['.']

/-- Reads a path. -/
def ofText (text : String) : Path where
  anchor := .ofSlashes (text.toList.takeWhile (· = '/')).length
  parts := ((Text.splitOn ['/'] text.toList).filter isPart).map String.ofList

/-- Writes a path; the working directory is a single point. -/
def text (path : Path) : String :=
  if path.anchor = .relative && path.parts.isEmpty then
    "."
  else
    path.anchor.text ++ "/".intercalate path.parts

/-- Reads the second path from the place of the first. -/
def join (path other : Path) : Path :=
  if other.anchor = .relative then
    { path with parts := path.parts ++ other.parts }
  else
    other

/-- Goes from a path on to the place that a text describes. -/
def child (path : Path) (text : String) : Path :=
  path.join (ofText text)

/-- The path without its last part. -/
def parent (path : Path) : Path :=
  { path with parts := path.parts.dropLast }

/-- The last part, or nothing for a path without parts. -/
def name (path : Path) : String :=
  path.parts.getLastD ""

/-- A name without its suffix, that is without its last point and what follows. -/
def withoutSuffix (name : List Char) : List Char :=
  let suffix := name.reverse.takeWhile (· ≠ '.')
  match name.reverse.dropWhile (· ≠ '.') with
  | _ :: before =>
      if suffix.isEmpty || before.isEmpty then name else before.reverse
  | [] => name

/-- The path with another suffix on its last part. -/
def withSuffix (path : Path) (suffix : String) : Path :=
  match path.parts.getLast? with
  | none => path
  | some last =>
      { path with
        parts := path.parts.dropLast ++
          [String.ofList (withoutSuffix last.toList) ++ suffix] }

/--
Takes one more part onto the parts so far, the latest first. Two points take back
the part before them; above the root they are dropped, and in front of a relative
path they stay.
-/
def collapseOnto (anchor : Anchor) (stack : List String) (part : String) : List String :=
  if part = ".." then
    match stack with
    | [] => if anchor = .relative then [part] else []
    | last :: before => if last = ".." then part :: stack else before
  else
    part :: stack

/-- The path without two points, as far as that can be told without a file tree. -/
def collapse (path : Path) : Path :=
  { path with parts := (path.parts.foldl (collapseOnto path.anchor) []).reverse }

example : (ofText "a/./b//../c").collapse.text = "a/c" := by decide +kernel

example : ((ofText "//x").child "../y").collapse.text = "//y" := by decide +kernel

end Path

end GrammarCorpus
