import TweetHarvest.Files.Tree

/-!
# File systems

The operations on files that the program uses, in any monad, and the file system that a tree of
files is.

* `FileSystem`          the operations
* `FileSystem.ofTree`   the operations on a tree, seen from a working directory
* `FileSystem.lift`      the same operations in another monad
* `FileSystem.makeDirs` makes a directory and those above it
-/

namespace TweetHarvest

/-- The operations on files. -/
structure FileSystem (m : Type → Type) where
  makeDir : Path → m (Except FileFault Unit)
  write : Path → ByteArray → m (Except FileFault Unit)
  rename : Path → Path → m (Except FileFault Unit)
  removeFile : Path → m (Except FileFault Unit)
  read : Path → m (Except FileFault ByteArray)
  names : Path → m (Except FileFault (List (List UInt8)))
  isDir : Path → m Bool
  isFile : Path → m Bool

namespace FileSystem

/-- Does to the tree what an operation makes of it, unless it fails. -/
def change (op : FileTree → Except FileFault FileTree) :
    StateM FileTree (Except FileFault Unit) := do
  match op (← get) with
  | .error fault => return .error fault
  | .ok tree =>
    set tree
    return .ok ()

/-- The file system that a tree is, seen from the directory `here`. -/
def ofTree (here : Location) : FileSystem (StateM FileTree) where
  makeDir p := change (·.makeDir here p)
  write p content := change (·.write here p content)
  rename source target := change (·.rename here source target)
  removeFile p := change (·.removeFile here p)
  read p := return (← get).read here p
  names p := return (← get).names here p
  isDir p := return (← get).isDir here p
  isFile p := return (← get).isFile here p

/-- The same operations in another monad. -/
def lift {m n : Type → Type} (fs : FileSystem m) (f : ∀ {α : Type}, m α → n α) : FileSystem n where
  makeDir p := f (fs.makeDir p)
  write p content := f (fs.write p content)
  rename source target := f (fs.rename source target)
  removeFile p := f (fs.removeFile p)
  read p := f (fs.read p)
  names p := f (fs.names p)
  isDir p := f (fs.isDir p)
  isFile p := f (fs.isFile p)

variable {m : Type → Type} [Monad m]

/-- Makes a directory, and those above it as far as they are missing, going up at most `levels`
levels.  A directory that is there already is fine. -/
def makeDirsUp (fs : FileSystem m) (levels : Nat) (p : Path) : m (Except FileFault Unit) := do
  if p.octets = [] then return .ok ()
  match ← fs.makeDir p with
  | .ok () => return .ok ()
  | .error .notFound =>
    match levels, p.parent? with
    | levels + 1, some parent =>
      match ← fs.makeDirsUp levels parent with
      | .error fault => return .error fault
      | .ok () => settle (← fs.makeDir p)
    | _, _ => return .error .notFound
  | .error fault => settle (.error fault)
where
  /-- A failure does not matter if the directory is there. -/
  settle (result : Except FileFault Unit) : m (Except FileFault Unit) := do
    match result with
    | .ok () => return .ok ()
    | .error fault => if ← fs.isDir p then return .ok () else return .error fault

/-- Makes a directory and those above it as far as they are missing. -/
def makeDirs (fs : FileSystem m) (p : Path) : m (Except FileFault Unit) :=
  fs.makeDirsUp p.octets.length p

end FileSystem

end TweetHarvest
