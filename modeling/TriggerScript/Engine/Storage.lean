import TriggerScript.Fault
import TriggerScript.Text.Cut
import TriggerScript.Text.LetterCase

/-!
# Stored files

* `Path` : the names on the way to a file or folder, as they are written.
* `Storage` : folders and files with their contents.
* `Storage.resolve` : where a path leads, step by step from folder to folder.
* `Storage.readText` : the text of a file.
* `Storage.scripts` : the script files below a folder in order.
-/

namespace TriggerScript

/-- The names on the way to a file or folder. The name `.` and the empty one stay in a folder, `..`
leads to the folder around it, and `/` to the outermost folder of all. -/
abbrev Path := List String

/-- The path that a text with slashes stands for. -/
def Path.ofString (s : String) : Path :=
  let names := (Text.pieces '/' s.toList).map String.ofList
  if s.startsWith "/" then "/" :: names else names

/-- Order by the first name that differs. -/
def Path.compare : Path → Path → Ordering
  | [], [] => .eq
  | [], _ :: _ => .lt
  | _ :: _, [] => .gt
  | a :: as, b :: bs => (Text.compareStrings a b).then (Path.compare as bs)

/-- The path as a text with slashes. -/
def Path.text (p : Path) : String := "/".intercalate p

/-- A name that stays in a folder. -/
def isHere (name : String) : Bool := name.isEmpty || name == "."

/-- A name that leads outside of the stored folders. -/
def isOuterName (name : String) : Bool := name == ".." || name == "/"

/-- The folder around a folder. -/
def Path.around (place : Path) : Path :=
  match place.getLast? with
  | none => [".."]
  | some name => if name == "/" then place else if name == ".." then place ++ [name] else place.dropLast

/-- Folders and files, each at its place: the names that lead to it from the innermost folder in
which everything is stored, without any that stay or lead back. -/
structure Storage where
  folders : List Path
  files : List (Path × ByteArray)
  deriving Inhabited

/-- What the system says about a path that does not exist. -/
def missingText : String := "No such file or directory (os error 2)"

/-- What the system says about a path that leads through a file. -/
def notFolderText : String := "Not a directory (os error 20)"

/-- What the system says about reading a folder. -/
def isFolderText : String := "Is a directory (os error 21)"

/-- What the system says about a name or a path of more bytes than it can take. -/
def longNameText : String := "File name too long (os error 36)"

/-- What is said about a path that the system cannot be asked for. -/
def badNameText : String := "file name contained an unexpected NUL byte"

/-- What is said about contents that are not text. -/
def notText : String := "stream did not contain valid UTF-8"

/-- The number of bytes that a name may have. -/
def nameLimit : Nat := 255

/-- The number of bytes that a path from the outermost folder may have. -/
def pathLimit : Nat := 4095

/-- The number of bytes that lead from there to the innermost folder. -/
def homeLength : Nat := 16

/-- Whether the system takes no path of this length. -/
def Path.isTooLong : Path → Bool
  | "/" :: names => pathLimit < (Path.text names).utf8ByteSize
  | names => pathLimit < homeLength + (Path.text names).utf8ByteSize

/-- A name that the system cannot be asked for. -/
def isBadName (name : String) : Bool := name.toList.contains '\x00'

namespace Storage

def empty : Storage := ⟨[], []⟩

def isFile (s : Storage) (place : Path) : Bool := (s.files.lookup place).isSome

/-- Whether there is a folder; the folders around the stored ones are always there. -/
def isFolder (s : Storage) (place : Path) : Bool :=
  place.all isOuterName || s.folders.contains place

/-- Where a name leads from a place, which has to be a folder. -/
def step (s : Storage) (place : Path) (name : String) : Except String Path :=
  if s.isFile place then .error notFolderText
  else if !s.isFolder place then .error missingText
  else if isHere name then .ok place
  else if name == ".." then .ok place.around
  else if name == "/" then .ok [name]
  else if nameLimit < name.utf8ByteSize then .error longNameText
  else .ok (place ++ [name])

/-- Where names lead one after the other. -/
def walk (s : Storage) (place : Path) : Path → Except String Path
  | [] => .ok place
  | name :: rest =>
    match s.step place name with
    | .error text => .error text
    | .ok place => s.walk place rest

/-- Where a path leads, whether or not there is something. -/
def resolve (s : Storage) (p : Path) : Except String Path :=
  if p.any isBadName then .error badNameText
  else if p.isTooLong then .error longNameText
  else s.walk [] p

/-- Makes a folder, if nothing is there. -/
def addFolder (s : Storage) (place : Path) : Storage :=
  if s.isFile place || s.isFolder place then s else { s with folders := place :: s.folders }

/-- Makes the folders that a path leads through; the place is missing if something is in the
way. -/
def addFolders (s : Storage) (place : Path) : Path → Storage × Option Path
  | [] => (s, some place)
  | name :: rest =>
    match s.step place name with
    | .error _ => (s, none)
    | .ok place => (s.addFolder place).addFolders place rest

/-- Puts a file at a place that is not a folder. -/
def putFile (s : Storage) (place : Path) (content : ByteArray) : Storage :=
  if s.isFolder place then s
  else { s with files := (place, content) :: s.files.filter (·.1 != place) }

/-- Writes a file and makes the folders that it stands in. Nothing is written where the path is
that of a folder or something is in the way. -/
def write (s : Storage) (p : Path) (content : ByteArray) : Storage :=
  let named := (p.reverse.dropWhile isHere).reverse
  if named.dropLast.any isBadName || Path.isTooLong named.dropLast then s
  else
    match s.addFolders [] named.dropLast, p.getLast? with
    | (s, some place), some name =>
      if named.length < p.length || isBadName name || p.isTooLong then s
      else
        match s.step place name with
        | .ok place => s.putFile place content
        | .error _ => s
    | (s, _), _ => s

/-- Removes a file. -/
def remove (s : Storage) (p : Path) : Storage :=
  match s.resolve p with
  | .ok place => { s with files := s.files.filter (·.1 != place) }
  | .error _ => s

/-- The text of a file. -/
def readText (s : Storage) (p : Path) : Except Fault String :=
  match s.resolve p with
  | .error text => .error (.file text)
  | .ok place =>
    match s.files.lookup place with
    | some content =>
      match String.fromUTF8? content with
      | some text => .ok text
      | none => .error (.file notText)
    | none => .error (.file (if s.isFolder place then isFolderText else missingText))

/-- The ending of a file name behind its last point, unless nothing stands before the point. -/
def extension? (name : String) : Option String :=
  match Text.cutAtLast? '.' name.toList with
  | some ([], _) => none
  | some (_, ending) => if name == ".." then none else some (String.ofList ending)
  | none => none

/-- Whether a path below a folder is that of a script in use. -/
def isScript (extension disabledStart : String) (below : Path) : Bool :=
  let disabled (name : String) : Bool :=
    !disabledStart.isEmpty && disabledStart.toList.isPrefixOf name.toList
  !below.any disabled && (below.getLast?.bind extension?) == some extension

/-- The scripts below a folder, as paths from there, in order. -/
def scripts (s : Storage) (folder : Path) (extension disabledStart : String) :
    Except Fault (List Path) :=
  match s.resolve folder with
  | .error text => .error (.file text)
  | .ok place =>
    if s.isFile place then .error (.file notFolderText)
    else if !s.isFolder place then .error (.file missingText)
    else
      let below := s.files.filterMap fun file =>
        if place.isPrefixOf file.1 then some (file.1.drop place.length) else none
      let own := below.filter fun path => !path.any isOuterName
      .ok ((own.filter (isScript extension disabledStart)).mergeSort fun a b =>
        (Path.compare a b).isLE)

end Storage

end TriggerScript
