import Blockwork.Text.Bytes

/-!
# Paths as text

Operations on the text of a path that look at no file: shortening, joining, taking apart and
expressing one path relative to another. A slash divides the elements of a path; an empty element
and a single dot mean nothing, and two dots cancel the element before them.
-/

namespace Blockwork
namespace Path

/-- The byte between elements. -/
def slash : UInt8 := 47

/-- The element for the directory itself. -/
def here : Bytes := utf8 "."

/-- The element for the directory above. -/
def above : Bytes := utf8 ".."

/-- Whether a path starts at the root. -/
def isAbsolute (path : Bytes) : Bool := path.head? = some slash

/-- The elements of a path that mean something by themselves. -/
def elements (path : Bytes) : List Bytes :=
  (Bytes.splitOnByte slash path).filter fun element => element ≠ []

/-- Puts one more element behind those before it, which are in reverse order. At the root there is
nothing above. -/
def push (rooted : Bool) (before : List Bytes) (element : Bytes) : List Bytes :=
  if element = here then before
  else if element = above then
    match before with
    | [] => if rooted then [] else [above]
    | last :: rest => if last = above then above :: before else rest
  else element :: before

/-- The shortest elements that name the same thing. -/
def reduce (rooted : Bool) (elements : List Bytes) : List Bytes :=
  (elements.foldl (push rooted) []).reverse

/-- The text of a path with the given elements. -/
def render (rooted : Bool) (elements : List Bytes) : Bytes :=
  let text := Bytes.join [slash] elements
  if rooted then slash :: text else if text = [] then here else text

/-- The shortest path that names the same thing; the empty path names the directory itself. -/
def clean (path : Bytes) : Bytes :=
  render (isAbsolute path) (reduce (isAbsolute path) (elements path))

/-- One path continued by others; empty ones in front do not count. -/
def join (paths : List Bytes) : Bytes :=
  match paths.dropWhile (· = []) with
  | [] => []
  | rest => clean (Bytes.join [slash] rest)

/-- The last element of a path. -/
def base (path : Bytes) : Bytes :=
  if path = [] then here
  else
    match (path.reverse.dropWhile (· = slash)).takeWhile (· ≠ slash) with
    | [] => [slash]
    | name => name.reverse

/-- The path without its last element. -/
def directory (path : Bytes) : Bytes :=
  clean (path.reverse.dropWhile (· ≠ slash)).reverse

/-- What a path begins with before its last element, and that element. -/
def split (path : Bytes) : Bytes × Bytes :=
  ((path.reverse.dropWhile (· ≠ slash)).reverse, (path.reverse.takeWhile (· ≠ slash)).reverse)

/-- The last dot of the last element with what follows it; empty if there is no dot. -/
def extension (path : Bytes) : Bytes :=
  let name := path.reverse.takeWhile (· ≠ slash)
  if name.contains 46 then 46 :: (name.takeWhile (· ≠ 46)).reverse else []

/-- A path as seen from the root. -/
def absolute (workingDirectory path : Bytes) : Bytes :=
  if isAbsolute path then clean path else join [workingDirectory, path]

/-- Two lists without the elements they have in common at the beginning. -/
def dropCommon : List Bytes → List Bytes → List Bytes × List Bytes
  | left :: lefts, right :: rights =>
    if left = right then dropCommon lefts rights else (left :: lefts, right :: rights)
  | lefts, rights => (lefts, rights)

/-- The way from one path to another, if their texts tell it. -/
def relative? (origin target : Bytes) : Option Bytes :=
  let origin := clean origin
  let target := clean target
  if origin = target then some here
  else if isAbsolute origin ≠ isAbsolute target then none
  else
    let (ups, downs) := dropCommon (if origin = here then [] else elements origin) (elements target)
    if ups.head? = some above ∧ downs ≠ [] then none
    else some (Bytes.join [slash] (ups.map (fun _ => above) ++ downs))

end Path
end Blockwork
