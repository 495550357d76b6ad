/-!
# Paths

Paths as texts with slashes. A clean path has neither empty segments nor segments that stay where
they are.
-/

namespace SexprAsm.CommandLine

/-- The texts between the slashes, empty ones included. -/
def splitSlashes : List Char → List (List Char)
  | [] => [[]]
  | c :: cs =>
    if c = '/' then [] :: splitSlashes cs
    else match splitSlashes cs with
      | [] => [[c]]
      | segment :: segments => (c :: segment) :: segments

/-- The steps that a path takes, one for each segment. -/
def pathSteps (path : String) : List String :=
  (splitSlashes path.toList).map String.ofList

/-- A clean path. -/
structure Path where
  /-- The slashes that it begins with: none, one, or two if there were exactly two. -/
  root : String
  segments : List String
  deriving DecidableEq

namespace Path

def ofText (text : String) : Path :=
  { root := match (text.toList.takeWhile (· = '/')).length with
      | 0 => ""
      | 2 => "//"
      | _ => "/"
    segments := (pathSteps text).filter fun s => s ≠ "" && s ≠ "." }

def text (p : Path) : String :=
  if p.root = "" ∧ p.segments = [] then "." else p.root ++ "/".intercalate p.segments

def parent (p : Path) : Path :=
  { p with segments := p.segments.dropLast }

/-- Takes two dots together with the segment before them; at the beginning they are dropped. -/
def fold (segments : List String) : List String :=
  segments.foldl (fun done s => if s = ".." then done.dropLast else done ++ [s]) []

/-- The path from the root on, seen from a working directory. Only the text is looked at: where
directories are links, it may lead elsewhere than the path did. -/
def absolute (p working : Path) : Path :=
  if p.root = "" then { working with segments := fold (working.segments ++ p.segments) }
  else { p with segments := fold p.segments }

end Path

end SexprAsm.CommandLine
