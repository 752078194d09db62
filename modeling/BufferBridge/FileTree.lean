/-! Files and folders, and what opening a file for appending finds: the folders on the way have to be
there, a file that is not there is made, and everything else is a fault with words of its own. -/
namespace BufferBridge

/-- What a name may stand for. -/
inductive FileEntry
  | folder
  | file (text : String)
  deriving Repr, DecidableEq

/-- The names on the way to an entry, its own first. The root has none. -/
abbrev EntryPath := List String

/-- The entries of a file system by their paths. -/
structure FileTree where
  entries : List (EntryPath × FileEntry) := []
  deriving Repr, DecidableEq

/-- Why a file cannot be opened. -/
inductive OpenFault
  | missing | notAFolder | isAFolder | nameTooLong | zeroInName
  deriving Repr, DecidableEq

def OpenFault.message : OpenFault → String
  | missing => "No such file or directory (os error 2)"
  | notAFolder => "Not a directory (os error 20)"
  | isAFolder => "Is a directory (os error 21)"
  | nameTooLong => "File name too long (os error 36)"
  | zeroInName => "file name contained an unexpected NUL byte"

namespace FileTree

def find? (tree : FileTree) (path : EntryPath) : Option FileEntry :=
  if path.isEmpty then some .folder else tree.entries.lookup path

def text? (tree : FileTree) (path : EntryPath) : Option String :=
  match tree.find? path with
  | some (.file text) => some text
  | _ => none

/-- The tree with a text at the end of a file. -/
def append (tree : FileTree) (path : EntryPath) (text : String) : FileTree :=
  ⟨tree.entries.map fun (place, entry) =>
    match entry with
    | .file before => if place = path then (place, .file (before ++ text)) else (place, entry)
    | .folder => (place, entry)⟩

/-- The most bytes that a name may have. -/
def maxName : Nat := 255

/-- The most bytes that the names on a way may have together with the strokes between them. -/
def maxPath : Nat := 4095

/-- Steps from a folder into the one with a name, where a dot stands for the folder itself and two
dots for the one that it is in. -/
def enter (tree : FileTree) (folder : EntryPath) (name : String) : Except OpenFault EntryPath :=
  if name = "." then .ok folder
  else if name = ".." then .ok folder.tail
  else if maxName < name.utf8ByteSize then .error .nameTooLong
  else
    match tree.find? (name :: folder) with
    | none => .error .missing
    | some (.file _) => .error .notAFolder
    | some .folder => .ok (name :: folder)

/-- Opens the file with a name in a folder, and makes it if there is none. -/
def openIn (tree : FileTree) (folder : EntryPath) (name : String) :
    Except OpenFault (EntryPath × FileTree) :=
  if maxName < name.utf8ByteSize then .error .nameTooLong
  else
    match tree.find? (name :: folder) with
    | some .folder => .error .isAFolder
    | some (.file _) => .ok (name :: folder, tree)
    | none => .ok (name :: folder, ⟨(name :: folder, .file "") :: tree.entries⟩)

/-- Opens a file for appending. The way to it starts at the root if it starts with a stroke, and else
at `start`; a stroke at its end asks for a folder. -/
def openFile (tree : FileTree) (start : EntryPath) (way : String) :
    Except OpenFault (EntryPath × FileTree) := do
  if way.toList.contains '\x00' then .error .zeroInName
  if way = "" then .error .missing
  if maxPath < way.utf8ByteSize then .error .nameTooLong
  let names := ((way.toList.splitOn '/').filter (· ≠ [])).map String.ofList
  let start := if way.toList.head? = some '/' then [] else start
  let folder ← names.dropLast.foldlM tree.enter start
  match names.getLast? with
  | none => .error .isAFolder
  | some name =>
    if name = "." ∨ name = ".." ∨ way.toList.getLast? = some '/' then .error .isAFolder
    else tree.openIn folder name

end FileTree

end BufferBridge
