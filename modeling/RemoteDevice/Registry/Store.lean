import RemoteDevice.FileTree.Basic
import RemoteDevice.Registry.Entry
import RemoteDevice.Text.Blank

/-!
Where the entries of a registry are kept: in memory, or as YAML in a file. Writing replaces a file
in one step, so that no half of a list is ever read.
-/
set_option autoImplicit false

namespace RemoteDevice

/-- Why entries cannot be read or written. -/
inductive StoreError where
  | unreadable (path : String) (error : FileError)
  | malformed (path : String) (fault : Yaml.Fault)
  | noDirectory (path : String) (error : FileError)
  /-- No draft could be begun in the directory. -/
  | noDraft (directory : String) (error : FileError)
  /-- The draft could not be filled. -/
  | notWritten (draft : String) (error : FileError)
  | notReplaced (path : String) (error : FileError)
deriving DecidableEq, Repr

namespace StoreError

/-- Whether something is wrong with what is stored, rather than with storing it. -/
def isCorrupt : StoreError → Bool
  | unreadable _ _ | malformed _ _ => true
  | noDirectory _ _ | noDraft _ _ | notWritten _ _ | notReplaced _ _ => false

/-- What was tried, and with which path. -/
def attempt : StoreError → String
  | unreadable path _ => "reading " ++ path
  | malformed path _ => "parsing " ++ path
  | noDirectory path _ => "creating " ++ path
  | noDraft directory _ => "temp file in " ++ directory
  | notWritten draft _ => "writing " ++ draft
  | notReplaced path _ => "replacing " ++ path

/-- The message up to the path. -/
def summary (e : StoreError) : String :=
  (if e.isCorrupt then "registry source is corrupt: " else "registry persistence failed: ") ++
    e.attempt

def message (e : StoreError) : String :=
  match e with
  | malformed _ _ => e.summary
  | unreadable _ cause | noDirectory _ cause | noDraft _ cause | notWritten _ cause
  | notReplaced _ cause =>
    e.summary ++ ": " ++ cause.message

end StoreError

/-- What a disk has against replacing a file: only the first of the directories on the way can be
had, or there can be no draft beside the file, or the draft cannot be filled, or it cannot be put in
the place of the file. -/
inductive DiskFault where
  | noDirectory (first : Nat) (error : FileError)
  | noDraft (error : FileError)
  | notWritten (draft : String) (error : FileError)
  | notReplaced (error : FileError)
deriving DecidableEq, Repr

/-- Why the file at a path is not written then. -/
def DiskFault.at (path : String) : DiskFault → StoreError
  | noDirectory _ e => .noDirectory (FileTree.parent path) e
  | noDraft e => .noDraft (FileTree.parent path) e
  | notWritten draft e => .notWritten draft e
  | notReplaced e => .notReplaced path e

/-- How much of the way to a directory can be had. -/
def DiskFault.reach (way : List String) : Option DiskFault → List String
  | some (noDirectory first _) => way.take first
  | _ => way

namespace FileTree

/-- The entries in a file, if there is one; a blank file holds none. -/
def readEntries (t : FileTree) (path : String) : Except StoreError (Option (List Entry)) :=
  match t.readText path with
  | .error .missing => .ok none
  | .error e => .error (.unreadable path e)
  | .ok text =>
    if (Text.trim text).isEmpty then .ok (some [])
    else
      match Entry.parseAll text with
      | .error fault => .error (.malformed path fault)
      | .ok entries => .ok (some entries)

/-- Writes entries into a file, with the directories that it needs, and gives what there is then.
The directories stay when the file is not written. A file on the way to it is come upon before any
directory is made. -/
def putEntries (t : FileTree) (fault : Option DiskFault) (path : String) (entries : List Entry) :
    Except StoreError Unit × FileTree :=
  match t.makeDirectory (DiskFault.reach (names path).dropLast fault), fault with
  | .error e, _ => (.error (.noDirectory (parent path) e), t)
  | .ok made, some fault => (.error (fault.at path), made)
  | .ok made, none =>
    match made.replaceFile path (.text (Entry.printAll entries)) with
    | .error e => (.error (.notReplaced path e), made)
    | .ok after => (.ok (), after)

/-- Writes entries into a file where the disk has nothing against it. -/
def writeEntries (t : FileTree) (path : String) (entries : List Entry) :
    Except StoreError FileTree :=
  let (written, after) := t.putEntries none path entries
  written.map fun _ => after

end FileTree

inductive Store where
  /-- Nothing until something has been written. -/
  | memory (entries : Option (List Entry))
  | file (path : String) (files : FileTree)
deriving DecidableEq, Repr

namespace Store

/-- The stored entries, or nothing if none have been stored yet. -/
def read : Store → Except StoreError (Option (List Entry))
  | memory entries => .ok entries
  | file path files => files.readEntries path

def write (entries : List Entry) : Store → Except StoreError Store
  | memory _ => .ok (memory (some entries))
  | file path files => (files.writeEntries path entries).map (file path)

/-- The files around a store; a store in memory has none. -/
def files : Store → FileTree
  | memory _ => ∅
  | file _ files => files

end Store

end RemoteDevice
