import ChainFeed.Config.Load
import ChainFeed.Data.Cut
import ChainFeed.Text.Bytewise

/-!
# A folder in memory

Files under one root, read by their paths. A path may name the current folder and the folder above
on its way. Of the places around the folder little is known: that there are folders above, and what
is said of the root of the system.
-/

namespace ChainFeed

structure Folder where
  /-- The first part of every path into the folder. -/
  root : String
  files : List (String × List UInt8)
  /-- The folders at the root of the system. -/
  systemFolders : List String
  /-- The files in these, by the ways to them. -/
  systemFiles : List (List String × List UInt8)

namespace Folder

/-- Where a path leads. -/
inductive Place where
  /-- The way from the folder. -/
  | inside (parts : List String)
  /-- The way from the root of the system. -/
  | system (parts : List String)
  | elsewhere
  deriving DecidableEq

inductive Entry where
  | folder
  | file (content : List UInt8)

inductive Fault where
  | notFound
  | notDirectory
  | isDirectory
  | invalidName
  | nameTooLong
  deriving DecidableEq

def Fault.message : Fault → String
  | notFound => "No such file or directory (os error 2)"
  | notDirectory => "Not a directory (os error 20)"
  | isDirectory => "Is a directory (os error 21)"
  | invalidName => "file name contained an unexpected NUL byte"
  | nameTooLong => "File name too long (os error 36)"

def partsOf (path : String) : List String := (cutAt (· == '/') path.toList).map String.ofList

def contentAt? (f : Folder) (parts : List String) : Option (List UInt8) :=
  (f.files.find? fun p => partsOf p.1 = parts).map Prod.snd

def isFolder (f : Folder) (parts : List String) : Bool :=
  parts.isEmpty || f.files.any fun p => parts.isPrefixOf (partsOf p.1) && partsOf p.1 != parts

/-- What is at a place. -/
def entry? (f : Folder) : Place → Option Entry
  | .inside parts =>
    match f.contentAt? parts with
    | some content => some (.file content)
    | none => if f.isFolder parts then some .folder else none
  | .system [] => some .folder
  | .system [name] => if f.systemFolders.contains name then some .folder else none
  | .system parts => (f.systemFiles.lookup parts).map .file
  | .elsewhere => some .folder

def above : Place → Place
  | .inside [] => .elsewhere
  | .inside parts => .inside parts.dropLast
  | .system parts => .system parts.dropLast
  | .elsewhere => .elsewhere

/-- The place with a name in a folder. -/
def below? (f : Folder) (name : String) : Place → Option Place
  | .inside parts => some (.inside (parts ++ [name]))
  | .system [] => some (if name = f.root then .inside [] else .system [name])
  | .system parts => some (.system (parts ++ [name]))
  | .elsewhere => none

def maxNameSize : Nat := 255

def maxPathSize : Nat := 4095

/-- Follows the parts of a path: the place where they lead. -/
def follow (f : Folder) (place : Place) : List String → Except Fault Place
  | [] => .ok place
  | part :: rest =>
    match f.entry? place with
    | none => .error .notFound
    | some (.file _) => .error .notDirectory
    | some .folder =>
      if part = "" || part = "." then f.follow place rest
      else if part = ".." then f.follow (above place) rest
      else if maxNameSize < Text.byteSize part.toList then .error .nameTooLong
      else
        match f.below? part place with
        | none => .error .notFound
        | some place => f.follow place rest

/-- The place where a path leads. A path begins at the root of the system, in the folder, or in the
current one. -/
def find (f : Folder) (path : String) : Except Fault Place :=
  if path.toList.contains '\x00' then .error .invalidName
  else if maxPathSize < Text.byteSize path.toList then .error .nameTooLong
  else
    match partsOf path with
    | [""] => .error .notFound
    | "" :: rest => f.follow (.system []) rest
    | first :: rest =>
      if first = f.root then f.follow (.inside []) rest else f.follow .elsewhere (first :: rest)
    | [] => .error .notFound

def contentOf (f : Folder) (place : Place) : Except Fault (List UInt8) :=
  match f.entry? place with
  | some (.file content) => .ok content
  | some .folder => .error .isDirectory
  | none => .error .notFound

def read (f : Folder) : Files := fun path => (f.find path >>= f.contentOf).mapError Fault.message

end Folder

end ChainFeed
