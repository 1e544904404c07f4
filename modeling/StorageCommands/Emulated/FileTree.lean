import StorageCommands.Linux.Errno

/-!
# A file tree in memory

Directories, files, and symbolic and hard links, with the path lookup of Linux: a lookup follows at most 40 symbolic
links, names have at most 255 bytes and paths less than 4096, and a path that ends in a slash names a directory.
-/

namespace StorageCommands.Emulated

open Linux

/-- The number of a file, a directory or a link. -/
abbrev Inode := Nat

/-- What an inode is. -/
inductive Node
  | file
  | directory (parent : Inode) (entries : List (String × Inode))
  | link (target : String)
  deriving DecidableEq, Repr

/-- A file tree. Its root is inode 1. -/
structure FileTree where
  nodes : List (Inode × Node) := [(1, .directory 1 [])]
  next : Inode := 2
  deriving Repr

/-- Where a lookup ends: the directory, the last name in it, and what has that name. -/
structure Place where
  directory : Inode
  name : String
  inode : Option Inode
  deriving DecidableEq, Repr

namespace FileTree

/-- Too many symbolic links. -/
def loop : Errno := 40

/-- A name or a path is too long. -/
def nameTooLong : Errno := 36

/-- Something that should be a directory is none. -/
def notDirectory : Errno := 20

/-- A directory where a file should be. -/
def isADirectory : Errno := 21

/-- What an inode is. -/
def node? (t : FileTree) (i : Inode) : Option Node := t.nodes.lookup i

/-- Whether an inode is a directory. -/
def isDirectory (t : FileTree) (i : Inode) : Bool :=
  match t.node? i with
  | some (.directory ..) => true
  | _ => false

/-- The names that a path is made of. -/
def components (path : String) : List String := (path.splitOn "/").filter (· ≠ "")

/-- Follows names from a directory on, after `links` symbolic links. A link at the end is followed if `follow` says so
or if a directory is asked for. -/
def walk (t : FileTree) (follow mustBeDirectory : Bool) (links : Nat) (dir : Inode) :
    List String → Except Errno Place
  | [] => .ok ⟨dir, ".", some dir⟩
  | name :: rest =>
    match t.node? dir with
    | some (.directory parent entries) =>
      if 255 < name.utf8ByteSize then .error nameTooLong
      else if name = "." then walk t follow mustBeDirectory links dir rest
      else if name = ".." then walk t follow mustBeDirectory links parent rest
      else
        match entries.lookup name with
        | none => if rest.isEmpty then .ok ⟨dir, name, none⟩ else .error Errno.noEntry
        | some i =>
          match t.node? i with
          | some (.link target) =>
            if rest.isEmpty && !follow && !mustBeDirectory then .ok ⟨dir, name, some i⟩
            else if _h : links < 40 then
              let mustBeDirectory := mustBeDirectory || rest.isEmpty && target.endsWith "/"
              walk t follow mustBeDirectory (links + 1) dir (components target ++ rest)
            else .error loop
          | some (.directory ..) =>
            if rest.isEmpty then .ok ⟨dir, name, some i⟩ else walk t follow mustBeDirectory links i rest
          | _ => if rest.isEmpty && !mustBeDirectory then .ok ⟨dir, name, some i⟩ else .error notDirectory
    | _ => .error notDirectory
termination_by names => (40 - links, names.length)

/-- Looks a path up from the root. -/
def lookup (t : FileTree) (follow : Bool) (path : String) : Except Errno Place :=
  if path.isEmpty then .error Errno.noEntry
  else if 4095 < path.utf8ByteSize then .error nameTooLong
  else t.walk follow (path.endsWith "/") 0 1 (components path)

/-- What a path names, links followed. -/
def find (t : FileTree) (path : String) : Except Errno Inode :=
  match t.lookup true path with
  | .ok ⟨_, _, some i⟩ => .ok i
  | .ok _ => .error Errno.noEntry
  | .error e => .error e

/-- Says what an inode is. -/
def setNode (t : FileTree) (i : Inode) (n : Node) : FileTree :=
  { t with nodes := (i, n) :: t.nodes.filter fun e => e.1 ≠ i }

/-- Gives a name in a directory to an inode, or takes the name out. -/
def setEntry (t : FileTree) (place : Place) (i : Option Inode) : FileTree :=
  match t.node? place.directory with
  | some (.directory parent entries) =>
    let others := entries.filter fun e => e.1 ≠ place.name
    t.setNode place.directory (.directory parent (others ++ (i.map fun i => (place.name, i)).toList))
  | _ => t

/-- Makes something new at a path where nothing is; `follow` says whether a link there counts as what it leads to. -/
def create (t : FileTree) (follow : Bool) (path : String) (node : Inode → Node) : FileTree :=
  match t.lookup follow path with
  | .ok place =>
    if place.inode.isSome then t
    else
      let t' := t.setNode t.next (node place.directory)
      { t' with next := t.next + 1 }.setEntry place (some t.next)
  | .error _ => t

/-- Removes a file or a link. -/
def remove (t : FileTree) (path : String) : FileTree :=
  match t.lookup false path with
  | .ok place => if place.inode.all t.isDirectory then t else t.setEntry place none
  | .error _ => t

/-- Gives something another path, in place of what was there. Nothing happens if both paths name the same. -/
def rename (t : FileTree) (source target : String) : FileTree :=
  match t.lookup false source, t.lookup false target with
  | .ok old, .ok new =>
    match old.inode with
    | none => t
    | some i =>
      if new.inode = some i || new.inode.any t.isDirectory && !t.isDirectory i then t
      else
        let t := (t.setEntry old none).setEntry new (some i)
        match t.node? i with
        | some (.directory _ entries) => t.setNode i (.directory new.directory entries)
        | _ => t
  | _, _ => t

/-- Gives a file or a link a second path. -/
def hardLink (t : FileTree) (path new : String) : FileTree :=
  match t.lookup false path, t.lookup false new with
  | .ok old, .ok place => if old.inode.all t.isDirectory || place.inode.isSome then t else t.setEntry place old.inode
  | _, _ => t

end FileTree

end StorageCommands.Emulated
