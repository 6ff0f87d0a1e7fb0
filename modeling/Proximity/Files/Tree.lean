/-!
# A directory tree

A model of the part of a file system below one root directory: what stands at each path,
a file with its text or a directory. A path is its list of components below the root; the
root itself is a directory.

The operations behave as on Linux. Reaching a path goes through the directories above
it: one that is missing gives `notFound`, a file in the way gives `notDirectory`.

* `read` gives a file's text; a directory cannot be read (`isDirectory`).
* `makeDir` makes one directory; it fails with `exists` when anything stands there.
* `makeDirAll` makes a directory and the missing ones above it; it succeeds when a
  directory already stands there.
* `write` replaces a file's text or makes the file; a directory cannot be written.
* `rename` moves a file, replacing a file that stood at the target; it cannot replace a
  directory.

Every operation either fails and leaves the tree as it was, or succeeds as a whole.
-/

namespace Proximity

/-- A failure of a file operation, as the operating system reports it. -/
inductive FileError where
  | notFound
  | isDirectory
  | notDirectory
  | exists_
  deriving DecidableEq, Repr

/-- The operating system's description of a failure. -/
def FileError.message : FileError → String
  | .notFound => "No such file or directory (os error 2)"
  | .isDirectory => "Is a directory (os error 21)"
  | .notDirectory => "Not a directory (os error 20)"
  | .exists_ => "File exists (os error 17)"

/-- What stands at a path. -/
inductive FileNode where
  | file (text : String)
  | dir
  deriving DecidableEq, Repr

/-- A directory tree: what stands at each path below the root. -/
structure FileTree where
  node : List String → Option FileNode

namespace FileTree

/-- A root directory with nothing in it. -/
def empty : FileTree := ⟨fun _ => none⟩

/-- The tree with what stands at one path replaced. -/
def update (t : FileTree) (p : List String) (n : Option FileNode) : FileTree :=
  ⟨fun q => if q = p then n else t.node q⟩

/-- What stands at a path; the root is a directory. -/
def lookup (t : FileTree) (p : List String) : Option FileNode :=
  if p = [] then some .dir else t.node p

/-- Whether a directory stands at a path. -/
def isDir (t : FileTree) (p : List String) : Bool := t.lookup p == some .dir

/-- Goes through the directories above the last component of a path, below `above`. -/
def reach (t : FileTree) (above : List String) : List String → Except FileError Unit
  | [] | [_] => .ok ()
  | c :: rest@(_ :: _) =>
    let here := above ++ [c]
    match t.lookup here with
    | some .dir => reach t here rest
    | some (.file _) => .error .notDirectory
    | none => .error .notFound

/-- The text of the file at a path. -/
def read (t : FileTree) (p : List String) : Except FileError String := do
  reach t [] p
  match t.lookup p with
  | some (.file text) => pure text
  | some .dir => throw .isDirectory
  | none => throw .notFound

/-- Makes one directory. -/
def makeDir (t : FileTree) (p : List String) : Except FileError FileTree := do
  reach t [] p
  match t.lookup p with
  | some _ => throw .exists_
  | none => pure (t.update p (some .dir))

/-- Makes a directory and the missing ones above it; the path is given last component
first. -/
def makeDirAllRev (t : FileTree) : List String → Except FileError FileTree
  | [] => .ok t
  | c :: aboveRev =>
    let p := (c :: aboveRev).reverse
    match t.makeDir p with
    | .ok t' => .ok t'
    | .error .notFound =>
      match makeDirAllRev t aboveRev with
      | .error e => .error e
      | .ok t1 =>
        match t1.makeDir p with
        | .ok t2 => .ok t2
        | .error e => if t1.isDir p then .ok t1 else .error e
    | .error e => if t.isDir p then .ok t else .error e

/-- Makes a directory and the missing ones above it. -/
def makeDirAll (t : FileTree) (p : List String) : Except FileError FileTree :=
  makeDirAllRev t p.reverse

/-- Writes the text of the file at a path, making the file if there is none. -/
def write (t : FileTree) (p : List String) (text : String) : Except FileError FileTree := do
  reach t [] p
  match t.lookup p with
  | some .dir => throw .isDirectory
  | _ => pure (t.update p (some (.file text)))

/-- Moves the file at one path to another, replacing a file there. -/
def rename (t : FileTree) (src dst : List String) : Except FileError FileTree := do
  reach t [] src
  let text ← match t.lookup src with
    | some (.file text) => pure text
    | some .dir => throw .isDirectory
    | none => throw .notFound
  reach t [] dst
  match t.lookup dst with
  | some .dir => throw .isDirectory
  | _ => pure ((t.update src none).update dst (some (.file text)))

end FileTree

end Proximity
