import QueryCompiler.Folder.Basic

/-!
# Making directories

`makeDirectory` makes a directory together with those on the way to it.  It first
tries the whole path, and only if something on the way is missing, the way.
-/

namespace QueryCompiler.Folder

/-- Make the directory at which some pieces end; what is on the way has to be
there. -/
def makeLast (folder : Folder) (start : Location) (pieces : List String) :
    Except PathError Folder := do
  let location ← folder.follow start pieces
  match folder.occupant? location with
  | some .directory => return folder
  | some (.file _) => throw .alreadyThere
  | none => return { folder with directories := location :: folder.directories }

/-- Make the directory at which some pieces end, which are given from the last to the
first.  Where something on the way is missing, the way is made before; the way to
`a/.` is that to `a`.  The folder is given also if it stops on the way. -/
def makeWay (folder : Folder) (start : Location) : List String → Option PathError × Folder
  | [] => (none, folder)
  | piece :: before =>
      let pieces := (piece :: before).reverse
      match folder.makeLast start pieces with
      | .ok made => (none, made)
      | .error .missing =>
          match folder.makeWay start (if piece == "." then before.tail else before) with
          | (some fault, made) => (some fault, made)
          | (none, made) =>
              match made.makeLast start pieces with
              | .ok complete => (none, complete)
              | .error fault => (some fault, made)
      | .error fault => (some fault, folder)
termination_by pieces => pieces.length
decreasing_by
  split
  · simp only [List.length_tail, List.length_cons]
    omega
  · exact Nat.lt_succ_self before.length

/-- The pieces of a path that name something, with a `.` only at the end. -/
def namingPieces (path : String) : List String :=
  let pieces := (pathPieces path).filter (!·.isEmpty)
  pieces.dropLast.filter (· != ".") ++ pieces.getLast?.toList

def makeDirectory (folder : Folder) (path : String) : Option PathError × Folder :=
  folder.makeWay (pathStart path) (namingPieces path).reverse

/-- The directories made right in the working directory, in the order of their
names. -/
def newNames (folder : Folder) : List String :=
  (folder.directories.filterMap fun
    | [name] => some name
    | _ => none).mergeSort fun left right => decide (left ≤ right)

end QueryCompiler.Folder
