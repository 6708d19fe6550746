import TweetHarvest.Files.System

/-!
# Disks with troubles

A disk is a tree of files on which any operation may fail for reasons that the tree does not show:
a full disk, a missing permission, a device that does not answer.  What goes wrong is given in
advance, operation by operation.  An operation in trouble changes nothing, but a write may leave
anything in its file.

* `Trouble`             what goes wrong with one operation
* `Disk`                a tree of files, and the troubles that are to come
* `FileSystem.ofDisk`   the file system that a disk is
-/

namespace TweetHarvest

/-- What goes wrong with an operation on files. -/
structure Trouble where
  cause : FileFault
  /-- What a write leaves in its file, if it got as far as that. -/
  remains : Option ByteArray

/-- A tree of files that operations may fail on. -/
structure Disk where
  tree : FileTree
  /-- What goes wrong with the next operations; nothing does after them. -/
  troubles : List (Option Trouble)

namespace Disk

/-- Performs an operation on the tree, or what becomes of it in trouble. -/
def attempt {α : Type} (op : StateM FileTree α) (spoiled : Trouble → StateM FileTree α) :
    StateM Disk α := fun d =>
  let op := match d.troubles with
    | some trouble :: _ => spoiled trouble
    | _ => op
  let (result, tree) := op.run d.tree
  (result, ⟨tree, d.troubles.tail⟩)

/-- In trouble an operation fails. -/
def refuse {α : Type} (trouble : Trouble) : StateM FileTree (Except FileFault α) :=
  return .error trouble.cause

/-- In trouble a write fails, and may leave something in its file. -/
def spoil (here : Location) (p : Path) (trouble : Trouble) :
    StateM FileTree (Except FileFault Unit) := fun t =>
  let left := trouble.remains.bind fun remains => (t.write here p remains).toOption
  (.error trouble.cause, left.getD t)

end Disk

/-- The file system that a disk is, seen from the directory `here`. -/
def FileSystem.ofDisk (here : Location) : FileSystem (StateM Disk) :=
  let fs := FileSystem.ofTree here
  { makeDir p := Disk.attempt (fs.makeDir p) Disk.refuse
    write p content := Disk.attempt (fs.write p content) (Disk.spoil here p)
    rename source target := Disk.attempt (fs.rename source target) Disk.refuse
    removeFile p := Disk.attempt (fs.removeFile p) Disk.refuse
    read p := Disk.attempt (fs.read p) Disk.refuse
    names p := Disk.attempt (fs.names p) Disk.refuse
    isDir p := Disk.attempt (fs.isDir p) fun _ => return false
    isFile p := Disk.attempt (fs.isFile p) fun _ => return false }

end TweetHarvest
