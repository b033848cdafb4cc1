import QueryCompiler.Text.Pieces

/-!
# Files and directories

A `Folder` is a working directory with the files and directories that are known in
and around it.  A path is followed piece by piece: everything on the way has to be
there and to be a directory, only the place where the path ends need not be.
-/

namespace QueryCompiler

/-- Why a path gives nothing. -/
inductive PathError where
  | missing
  | alreadyThere
  | notDirectory
  | isDirectory
  | longName
  | nulCharacter
  deriving DecidableEq, Repr

def PathError.message : PathError → String
  | .missing => "No such file or directory (os error 2)"
  | .alreadyThere => "File exists (os error 17)"
  | .notDirectory => "Not a directory (os error 20)"
  | .isDirectory => "Is a directory (os error 21)"
  | .longName => "File name too long (os error 36)"
  | .nulCharacter => "file name contained an unexpected NUL byte"

/-! ## Locations -/

/-- Where a file or a directory is: the names on the way to it from the working
directory.  A way that leads out of it begins with `..`, and one that begins at the
root with `/`. -/
abbrev Location := List String

/-- The location one step up.  The root has none above it. -/
def Location.parent (location : Location) : Location :=
  if location == ["/"] then location
  else if location.all (· == "..") then location ++ [".."]
  else location.dropLast

def pathPieces (path : String) : List String :=
  (Text.pieces '/' path.toList).map String.ofList

def pathStart (path : String) : Location :=
  if path.toList.head? == some '/' then ["/"] else []

/-- Where a path leads that is only read, whatever is there. -/
def Location.ofPath (path : String) : Location :=
  (pathPieces path).foldl (fun location piece =>
    if piece.isEmpty || piece == "." then location
    else if piece == ".." then location.parent
    else location ++ [piece]) (pathStart path)

/-! ## Folders -/

/-- Files with their texts, and directories.  Whatever is on the way to one of them
is a directory too.  Of two texts in one location the first counts. -/
structure Folder where
  files : List (Location × String)
  directories : List Location
  deriving DecidableEq, Repr

inductive Occupant where
  | file (text : String)
  | directory
  deriving DecidableEq, Repr

namespace Folder

def empty : Folder :=
  ⟨[], []⟩

def write (folder : Folder) (path text : String) : Folder :=
  { folder with files := (Location.ofPath path, text) :: folder.files }

def ofFiles (files : List (String × String)) : Folder :=
  files.foldl (fun folder file => folder.write file.1 file.2) .empty

/-- Whether a location that holds no file is a directory. -/
def isWay (folder : Folder) (location : Location) : Bool :=
  location.all (· == "..") || location == ["/"] ||
    (folder.files.map Prod.fst ++ folder.directories).any location.isPrefixOf

def occupant? (folder : Folder) (location : Location) : Option Occupant :=
  match folder.files.lookup location with
  | some text => some (.file text)
  | none => if folder.isWay location then some .directory else none

/-- The length in bytes that a name may have. -/
def nameLimit : Nat := 255

/-- Follow the pieces of a path from a location. -/
def follow (folder : Folder) (location : Location) : List String → Except PathError Location
  | [] => .ok location
  | piece :: pieces =>
      match folder.occupant? location with
      | none => .error .missing
      | some (.file _) => .error .notDirectory
      | some .directory =>
          if piece.isEmpty || piece == "." then folder.follow location pieces
          else if piece == ".." then folder.follow location.parent pieces
          else if nameLimit < piece.utf8ByteSize then .error .longName
          else folder.follow (location ++ [piece]) pieces

def locate (folder : Folder) (path : String) : Except PathError Location :=
  if path.toList.contains '\x00' then .error .nulCharacter
  else if path.isEmpty then .error .missing
  else folder.follow (pathStart path) (pathPieces path)

def read (folder : Folder) (path : String) : Except PathError String := do
  match folder.occupant? (← folder.locate path) with
  | some (.file text) => return text
  | some .directory => throw .isDirectory
  | none => throw .missing

def text? (folder : Folder) (path : String) : Option String :=
  (folder.read path).toOption

end Folder

end QueryCompiler
