import RemoteDevice.Text.Split

/-!
Files and directories by the names that lead to them. The directory that everything lies in is
always there; of everything else each step on the way has to be a directory.

A path is the names on it, separated by slashes. Slashes in a row count as one, and a single dot as
a name leads nowhere else. What follows from this is simpler than a system's files in two places: a
path that ends in a slash or in a single dot is taken for the file before it, where a system refuses
it for a file, and two dots are a name like any other, where a system goes back to the directory
above.
-/
set_option autoImplicit false

namespace RemoteDevice

/-- Why something cannot be done with a file. -/
inductive FileError where
  | missing
  | occupied
  /-- Something on the way is a file. -/
  | notDirectory
  | isDirectory
  /-- The bytes of the file are no text. -/
  | notText
  /-- Whatever else the system has against it, in its own words. -/
  | refused (reason : String)
deriving DecidableEq, Repr

def FileError.message : FileError → String
  | missing => "No such file or directory (os error 2)"
  | occupied => "File exists (os error 17)"
  | notDirectory => "Not a directory (os error 20)"
  | isDirectory => "Is a directory (os error 21)"
  | notText => "stream did not contain valid UTF-8"
  | refused reason => reason

inductive FileContent where
  | text (s : String)
  /-- Bytes that are no text. -/
  | binary (bytes : List UInt8)
deriving DecidableEq, Repr

/-- Bytes that are UTF-8 make a text. -/
def FileContent.ofBytes (bytes : List UInt8) : FileContent :=
  match String.fromUTF8? ⟨bytes.toArray⟩ with
  | some s => text s
  | none => binary bytes

inductive FileNode where
  | directory
  | file (content : FileContent)
deriving DecidableEq, Repr

/-- What lies where, each place given by the names that lead to it. -/
structure FileTree where
  nodes : List (List String × FileNode) := []
deriving DecidableEq, Repr

namespace FileTree

instance : EmptyCollection FileTree := ⟨{}⟩

/-- The names on a path. A path that starts with a slash has it as its first name. -/
def names (path : String) : List String :=
  let fields := (Text.split '/' path.toList).map String.ofList
  let named := fields.filter fun name => name ≠ "" && name ≠ "."
  if path.toList.head? = some '/' then "/" :: named else named

/-- How the directory is called that holds what the path leads to. -/
def parent (path : String) : String :=
  let last := path.toList.reverse.dropWhile (· = '/')
  let holder := (last.dropWhile (· ≠ '/')).dropWhile (· = '/')
  if !holder.isEmpty then String.ofList holder.reverse
  else if path.toList.head? = some '/' then "/"
  else "."

/-- What lies at a place. -/
def node? (t : FileTree) (place : List String) : Option FileNode :=
  if place.isEmpty then some .directory else t.nodes.lookup place

def put (t : FileTree) (place : List String) (n : FileNode) : FileTree :=
  ⟨(place, n) :: t.nodes.filter fun entry => entry.1 ≠ place⟩

/-- Goes on from the place `here`. -/
def walk (t : FileTree) (here : List String) : List String → Except FileError FileNode
  | [] => match t.node? here with
    | some n => .ok n
    | none => .error .missing
  | name :: rest => match t.node? here with
    | some .directory => t.walk (here ++ [name]) rest
    | some (.file _) => .error .notDirectory
    | none => .error .missing

/-- What lies at a place, provided that there is a way to it. -/
def find (t : FileTree) (place : List String) : Except FileError FileNode := t.walk [] place

/-- Reads a file. The empty path leads nowhere. -/
def readText (t : FileTree) (path : String) : Except FileError String :=
  if path.isEmpty then .error .missing
  else
    match t.find (names path) with
    | .ok (.file (.text s)) => .ok s
    | .ok (.file (.binary _)) => .error .notText
    | .ok .directory => .error .isDirectory
    | .error e => .error e

/-- Makes the directories on the way from the place `here`. -/
def extend (t : FileTree) (here : List String) : List String → Except FileError FileTree
  | [] => .ok t
  | name :: rest =>
    let next := here ++ [name]
    match t.node? next with
    | some .directory => t.extend next rest
    | some (.file _) => .error (if rest.isEmpty then .occupied else .notDirectory)
    | none => (t.put next .directory).extend next rest

/-- Makes a directory and those that it lies in, as far as they are not there. -/
def makeDirectory (t : FileTree) (place : List String) : Except FileError FileTree :=
  t.extend [] place

/-- Makes the directory for what a path leads to. -/
def makeParent (t : FileTree) (path : String) : Except FileError FileTree :=
  t.makeDirectory (names path).dropLast

/-- Puts a file where a path leads, in one step; a file that is there is replaced. -/
def replaceFile (t : FileTree) (path : String) (content : FileContent) :
    Except FileError FileTree :=
  if path.isEmpty then .error .missing
  else
    match t.find (names path).dropLast, t.node? (names path) with
    | .error e, _ => .error e
    | .ok (.file _), _ => .error .notDirectory
    | .ok .directory, some .directory => .error .isDirectory
    | .ok .directory, _ => .ok (t.put (names path) (.file content))

/-- Puts a file where a path leads, with the directories that it needs. -/
def writeFile (t : FileTree) (path : String) (content : FileContent) :
    Except FileError FileTree := do
  (← t.makeParent path).replaceFile path content

/-- The names of what lies in the directory that holds what a path leads to, in the order of their
characters. -/
def namesBeside (t : FileTree) (path : String) : List String :=
  let holder := (names path).dropLast
  let inside := t.nodes.filterMap fun entry =>
    if entry.1.dropLast = holder then entry.1.getLast? else none
  inside.mergeSort fun a b => a ≤ b

end FileTree

end RemoteDevice
