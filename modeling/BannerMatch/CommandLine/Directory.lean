import BannerMatch.Text.Utf8

/-!
# Directories

A directory of named files, as far as the program deals with one. A path is a list of names with
slashes between them, and is followed from the directory on, name by name. Where the directory
itself lies is not known: a path that starts at the root of all files, or leads out of the directory
on its way, leads to no file here, and neither can be read or written.

* `Directory.enter` follows one name: `.` and the empty name stay, `..` goes back, any other name
  has to be that of a folder.
* `Directory.locate?` gives the place that a path leads to, if a file can be there.
* `Directory.read?` and `Directory.write?` read and write the file at a path. The null device is
  there besides: it is empty, and what is written to it is lost.
-/

namespace BannerMatch.CommandLine

/-- Files by their paths. -/
structure Directory where
  files : List (String × List UInt8) := []
deriving DecidableEq, Repr

/-- The pieces of a path; `piece` holds, last first, what has been read of the first one. -/
def piecesFrom (piece : List Char) : List Char → List (List Char)
  | [] => [piece.reverse]
  | c :: rest =>
      if c = '/' then piece.reverse :: piecesFrom [] rest else piecesFrom (c :: piece) rest

/-- The pieces of a path between its slashes. -/
def pathPieces (path : String) : List (List Char) := piecesFrom [] path.toList

/-- Whether a piece of a path leads nowhere. -/
def isIdle (piece : List Char) : Bool := piece.isEmpty || piece == ['.']

/-- The names in a path. -/
def pathNames (path : String) : List (List Char) :=
  (pathPieces path).filter fun p => !isIdle p

/-- Whether a path starts at the root of all files. -/
def isAbsolute (path : String) : Bool := path.toList.head? == some '/'

/-- Whether a path leads to the null device. -/
def isNullDevice (path : String) : Bool :=
  isAbsolute path && pathNames path == ["dev".toList, "null".toList] &&
    (pathPieces path).getLast? == some "null".toList

/-- The greatest number of bytes in a name. -/
def maxNameBytes : Nat := 255

/-- The greatest number of bytes in a path. -/
def maxPathBytes : Nat := 4095

namespace Directory

/-- Whether a list of names is that of a folder with files in it. -/
def isFolder (d : Directory) (names : List (List Char)) : Bool :=
  d.files.any fun f => names.isPrefixOf (pathNames f.1) && names.length < (pathNames f.1).length

/-- Where a piece of a path leads from the folder of the given names. It does not lead out of the
directory. -/
def enter (d : Directory) (folder : List (List Char)) (piece : List Char) :
    Option (List (List Char)) :=
  if isIdle piece then some folder
  else if piece = ['.', '.'] then if folder.isEmpty then none else some folder.dropLast
  else if d.isFolder (folder ++ [piece]) then some (folder ++ [piece])
  else none

/-- The names of the place that a path leads to, if a file can be there: all but the last name are
those of folders, the last one is a proper name, and no name and no path is too long. -/
def locate? (d : Directory) (path : String) : Option (List (List Char)) :=
  let pieces := pathPieces path
  let last := pieces.getLast?.getD []
  if isAbsolute path || isIdle last || last == ['.', '.'] then none
  else if maxNameBytes < Text.byteLength last || maxPathBytes < Text.byteLength path.toList then
    none
  else (pieces.dropLast.foldlM d.enter []).map fun folder => folder ++ [last]

/-- The contents of the file with the given names. -/
def contents? (d : Directory) (names : List (List Char)) : Option (List UInt8) :=
  (d.files.find? fun f => pathNames f.1 == names).map Prod.snd

/-- The directory in which the file with the given names has the given contents. -/
def put (d : Directory) (names : List (List Char)) (contents : List UInt8) : Directory :=
  let others := d.files.filter fun f => pathNames f.1 != names
  ⟨(String.ofList (['/'].intercalate names), contents) :: others⟩

/-- The contents of a file. -/
def read? (d : Directory) (path : String) : Option (List UInt8) :=
  if isNullDevice path then some [] else (d.locate? path).bind d.contents?

/-- The directory with new contents for a file, if there is a place for it. -/
def write? (d : Directory) (path : String) (contents : List UInt8) : Option Directory :=
  if isNullDevice path then some d
  else match d.locate? path with
    | none => none
    | some names => if d.isFolder names then none else some (d.put names contents)

end Directory

end BannerMatch.CommandLine
