import Grok.Table
import Grok.Log
import Grok.Error
import Grok.Glob
import Grok.FileTree
import Grok.PatternFile
import Grok.Builtin
/-!
A library of named patterns. It is filled from sources in order, and a later definition of a name
replaces an earlier one.
-/
namespace Grok

inductive PatternSource where
  | builtin
  /-- A directory, of which the files of this form are read, or a single file. -/
  | path (path glob : String)
  | inline (definitions : List (String × String))
  deriving DecidableEq, Repr

structure Library where
  definitions : Table String
  deriving DecidableEq, Repr

/-- What loading leaves behind: the library so far, the log, and the number of definitions added
or the reason why loading stopped. -/
structure Loaded where
  library : Library
  log : Log
  added : Except Error Nat

namespace Library

def empty : Library := ⟨[]⟩

def add (l : Library) (name body : String) : Library := ⟨l.definitions.put name body⟩

def addAll (l : Library) (defs : List (String × String)) : Library := ⟨l.definitions.putAll defs⟩

def resolve (l : Library) (name : String) : Option String := l.definitions.get? name

def contains (l : Library) (name : String) : Bool := l.definitions.contains name

def size (l : Library) : Nat := l.definitions.length

def isEmpty (l : Library) : Bool := l.definitions.isEmpty

def names (l : Library) : List String := l.definitions.names

def withBuiltins : Library := empty.addAll Builtin.patterns

/-- Adds the definitions of a pattern file's text, and counts them. -/
def addText (l : Library) (text : String) : Library × Nat :=
  let defs := PatternFile.definitions text
  (l.addAll defs, defs.length)

def addFile (tree : FileTree) (l : Library) (path : String) : Loaded :=
  match tree.resolve path with
  | none => ⟨l, [], .error (.missingFile path)⟩
  | some _ =>
    let log := [⟨.info, "Grok loading patterns from file", [("path", path)]⟩]
    match tree.readText path with
    | .error detail => ⟨l, log, .error (.io detail)⟩
    | .ok text =>
      let (l, n) := l.addText text
      ⟨l, log, .ok n⟩

/-- Adds files one after the other. The definitions of the files before one that fails stay. -/
def addFiles (tree : FileTree) (l : Library) : List String → Loaded
  | [] => ⟨l, [], .ok 0⟩
  | p :: ps =>
    let first := addFile tree l p
    match first.added with
    | .error e => ⟨first.library, first.log, .error e⟩
    | .ok n =>
      let rest := addFiles tree first.library ps
      ⟨rest.library, first.log ++ rest.log, rest.added.map (n + ·)⟩

/-- The files of a directory whose names have the form of the glob, in the order of their names. -/
def selectFiles (tree : FileTree) (dir : List String) (glob : Glob) : List String :=
  ((tree.fileNames dir).filter glob.accepts).mergeSort (· ≤ ·)

/-- Adds the files of a directory, or a single file whatever the glob is. -/
def addPath (tree : FileTree) (l : Library) (path glob : String) : Loaded :=
  match tree.resolve path with
  | none => ⟨l, [], .error (.missingFile path)⟩
  | some dir =>
    if !tree.isDirectory dir then addFile tree l path
    else
      match Glob.ofText glob with
      | .error fault => ⟨l, [], .error (.invalidGlob glob fault.message)⟩
      | .ok g =>
        match tree.listingFault? dir with
        | some detail => ⟨l, [], .error (.io detail)⟩
        | none =>
          let files := selectFiles tree dir g
          let scanned : LogEntry :=
            ⟨.debug, "Grok pattern directory scanned",
              [("dir", path), ("glob", glob), ("files", toString files.length)]⟩
          let r := addFiles tree l (files.map (FileTree.join path))
          ⟨r.library, scanned :: r.log, r.added⟩

def addSource (tree : FileTree) (l : Library) : PatternSource → Loaded
  | .builtin => ⟨l.addAll Builtin.patterns, [], .ok Builtin.patterns.length⟩
  | .path path glob => l.addPath tree path glob
  | .inline defs => ⟨l.addAll defs, [], .ok defs.length⟩

/-- Adds sources in order, up to the first that fails. -/
def addSources (tree : FileTree) (l : Library) : List PatternSource → Loaded
  | [] => ⟨l, [], .ok 0⟩
  | s :: ss =>
    let first := addSource tree l s
    match first.added with
    | .error e => ⟨first.library, first.log, .error e⟩
    | .ok n =>
      let rest := addSources tree first.library ss
      ⟨rest.library, first.log ++ rest.log, rest.added.map (n + ·)⟩

def load (tree : FileTree) (sources : List PatternSource) : Except Error Library × Log :=
  let r := addSources tree empty sources
  match r.added with
  | .error e => (.error e, r.log)
  | .ok _ =>
    (.ok r.library,
      r.log ++ [⟨.info, "Grok pattern registry loaded", [("patterns", toString r.library.size)]⟩])

end Library

end Grok
