/-!
A tree of files as a value: what a reader of pattern files can see. Directories exist because
something lies in them or because they are listed as such.
-/
namespace Grok

inductive FileNode where
  | file (bytes : ByteArray)
  /-- A file that cannot be read, and why. -/
  | sealed (detail : String)
  /-- A file that its directory lists and that is gone by the time it is to be read. -/
  | fleeting
  | directory
  /-- A directory that cannot be listed, and why. What lies in it can be read. -/
  | unlisted (detail : String)

namespace FileNode

/-- A directory lists it as a plain file. -/
def isPlain : FileNode → Bool
  | .file _ | .sealed _ | .fleeting => true
  | .directory | .unlisted _ => false

/-- What reading a plain file gives. -/
def content? : FileNode → Option (Except String ByteArray)
  | .file bytes => some (.ok bytes)
  | .sealed detail => some (.error detail)
  | .fleeting | .directory | .unlisted _ => none

end FileNode

/-- Files and directories by the names on the way to them. -/
structure FileTree where
  entries : List (List String × FileNode)

namespace FileTree

def empty : FileTree := ⟨[]⟩

def file? (t : FileTree) (at_ : List String) : Option (Except String ByteArray) :=
  t.entries.findSome? fun (p, node) => if p = at_ then node.content? else none

/-- A directory is the root, is an entry itself, or is on the way to something. -/
def isDirectory (t : FileTree) (at_ : List String) : Bool :=
  at_.isEmpty || t.entries.any fun (p, node) =>
    at_.isPrefixOf p && (p.length != at_.length || !node.isPlain)

/-- Why a directory cannot be listed, if it cannot. -/
def listingFault? (t : FileTree) (at_ : List String) : Option String :=
  t.entries.findSome? fun
    | (p, .unlisted detail) => if p = at_ then some detail else none
    | _ => none

/-- Walks from a place along path components. Only a directory can be walked through; an empty
component and a dot stay where they are, two dots go up. -/
def walk (t : FileTree) : List String → List String → Option (List String)
  | at_, [] => some at_
  | at_, c :: rest =>
    if !t.isDirectory at_ then none
    else if c = "" || c = "." then t.walk at_ rest
    else if c = ".." then if at_.isEmpty then none else t.walk at_.dropLast rest
    else
      let next := at_ ++ [c]
      if t.isDirectory next || (t.file? next).isSome then t.walk next rest else none

/-- What stands between the slashes of a path. -/
def components (path : String) : List String := (path.toList.splitOn '/').map String.ofList

/-- The place that a relative path leads to. The empty path and absolute paths lead nowhere. -/
def resolve (t : FileTree) (path : String) : Option (List String) :=
  if path.isEmpty || path.startsWith "/" then none else t.walk [] (components path)

/-- The names of the plain files that a directory lists. -/
def fileNames (t : FileTree) (dir : List String) : List String :=
  t.entries.filterMap fun (p, node) =>
    if node.isPlain && p.length = dir.length + 1 && dir.isPrefixOf p then p.getLast?
    else none

def join (dir name : String) : String :=
  if dir.endsWith "/" then dir ++ name else dir ++ "/" ++ name

/-- The text of the file at a path. Directories, sealed files and bytes that are not UTF-8 have
none. -/
def readText (t : FileTree) (path : String) : Except String String :=
  match t.resolve path with
  | none => .error "no such file or directory"
  | some at_ =>
    match t.file? at_ with
    | none => .error "is a directory"
    | some (.error detail) => .error detail
    | some (.ok bytes) =>
      match String.fromUTF8? bytes with
      | none => .error "the file is not valid UTF-8"
      | some text => .ok text

end FileTree

end Grok
