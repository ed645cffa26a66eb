import EntityViews.Text.Split

/-!
Paths of files, and the folders above them. The folders of a path are made one below the other; what stands in the way
of that is found from the path and from the files that are known to exist.
-/

namespace EntityViews

/-- The parts of a path between slashes; an empty part and a single dot name nothing. -/
def pathParts (path : String) : List String := (Text.splitAt '/' path).filter fun p => p != "" && p != "."

/-- A path by its parts alone; two slashes in front, and no more, stay two. -/
def tidyPath (path : String) : String :=
  let slashes := (path.toList.takeWhile (· = '/')).length
  let root := if slashes = 0 then "" else if slashes = 2 then "//" else "/"
  let tidy := root ++ "/".intercalate (pathParts path)
  if tidy = "" then "." else tidy

/-- A place among the folders: the steps to it from the root, or from the folder that the program runs in. -/
structure Place where
  fromRoot : Bool
  steps : List String
deriving DecidableEq

namespace Place

def step (p : Place) (part : String) : Place :=
  let upward := part = ".." && p.steps.all (· = "..")
  if upward && p.fromRoot then p
  else if part = ".." && !upward then { p with steps := p.steps.dropLast }
  else { p with steps := p.steps ++ [part] }

def start (path : String) : Place := ⟨path.startsWith "/", []⟩

def ofPath (path : String) : Place := (pathParts path).foldl step (start path)

def along (path : String) : List Place :=
  let (_, passed) := (pathParts path).foldl (fun (p, passed) part => (p.step part, p.step part :: passed))
    (start path, [])
  passed

def isAbove (p file : Place) : Bool :=
  p.steps.all (· = "..") || p.fromRoot = file.fromRoot && p.steps.isPrefixOf file.steps

end Place

inductive Obstacle
  /-- A file has the name of the folder. -/
  | taken
  /-- The folder would lie below a file. -/
  | belowFile
  /-- A folder has the name of the file. -/
  | folder
  | longName
  | nullCharacter

namespace Obstacle

/-- The wording of an obstacle; most have none. -/
def message? : Obstacle → Option String
  | nullCharacter => some "embedded null byte"
  | _ => none

def longestPart : Nat := 255

def longestPath : Nat := 4095

def nullDevice : String := "/dev/null"

/-- What the steps from a place meet first. A file at the last step has the name of the folder; so has one that is only
come to when the missing folders are made one by one. -/
def onWay? (files : List Place) : Place → Bool → List String → Option Obstacle
  | _, _, [] => none
  | p, missing, part :: rest =>
    let next := p.step part
    if longestPart < part.utf8ByteSize then some longName
    else if next ∈ files then some (if missing || rest.isEmpty then taken else belowFile)
    else onWay? files next (missing || !files.any next.isAbove) rest

/-- What stands in the way of making a folder and those above it, where some files are. -/
def toFolder? (files : List String) (path : String) : Option Obstacle :=
  if '\x00' ∈ path.toList then some nullCharacter
  else if longestPath < path.utf8ByteSize then some longName
  else onWay? ((nullDevice :: files).map Place.ofPath) (.start path) false (pathParts path)

/-- What stands in the way of writing a file of a folder after making the folder. -/
def toFile? (files : List String) (directory name : String) : Option Obstacle :=
  (toFolder? files directory).orElse fun _ =>
    if (Place.ofPath directory).step name ∈ Place.along directory then some folder else none

end Obstacle

def folderOf (path : String) : String :=
  (if path.startsWith "/" then "/" else "") ++ "/".intercalate (pathParts path).dropLast

end EntityViews
