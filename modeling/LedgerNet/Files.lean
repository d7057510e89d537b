import LedgerNet.Text.Utf8

/-!
# Files

Credentials and manifests are read from files, and every container gets a
directory of its own that is written before it starts. What can go wrong
there is part of the behaviour, so files are modelled as far as it shows: a
tree of directories, paths that name places in it, and the four operations
that are used, each with the errors of a POSIX system.

A path is a text. Joining puts a slash between two of them unless the
second one starts with a slash, in which case it stands alone.
-/

namespace LedgerNet

/-- **What goes wrong with a file.** -/
inductive FileError where
  | notFound
  | permissionDenied
  | alreadyExists
  | notDirectory
  | isDirectory
  | nameTooLong
  /-- A name with a zero character in it never reaches the system. -/
  | zeroInName
  /-- No program is started with a zero character in its arguments. -/
  | zeroInArgument
  /-- The contents are not text. -/
  | notText
  deriving DecidableEq, Repr

/-- What is reported. -/
def FileError.message : FileError → String
  | .notFound => "No such file or directory (os error 2)"
  | .permissionDenied => "Permission denied (os error 13)"
  | .alreadyExists => "File exists (os error 17)"
  | .notDirectory => "Not a directory (os error 20)"
  | .isDirectory => "Is a directory (os error 21)"
  | .nameTooLong => "File name too long (os error 36)"
  | .zeroInName => "file name contained an unexpected NUL byte"
  | .zeroInArgument => "nul byte found in provided data"
  | .notText => "stream did not contain valid UTF-8"

/-! ## Paths -/

namespace Path

/-- **Joining two paths.** -/
def join (base rest : String) : String :=
  match rest.toList, base.toList.getLast? with
  | '/' :: _, _ => rest
  | _, none => rest
  | _, some last => if last = '/' then base ++ rest else base ++ "/" ++ rest

/-- The parts of a text between slashes. -/
def parts : List Char → List (List Char)
  | [] => [[]]
  | '/' :: rest => [] :: parts rest
  | c :: rest =>
    match parts rest with
    | [] => [[c]]
    | part :: others => (c :: part) :: others

/-- **The names along a path**, without those that go nowhere. -/
def names (path : String) : List String :=
  ((parts path.toList).map String.ofList).filter fun name => name ≠ "" && name ≠ "."

/-- Whether a path asks for a directory by its end. -/
def asksForDirectory (path : String) : Bool :=
  match (parts path.toList).getLast? with
  | some last => last.isEmpty || last == ['.'] || last == ['.', '.']
  | none => false

end Path

/-! ## The tree -/

/-- What stands at a place. -/
inductive FileEntry where
  | directory
  | file (contents : List UInt8)
  deriving DecidableEq, Repr

/-- **A file system**: what stands at which place, a place being the names
from the root down. The root is always a directory. -/
structure FileSystem where
  entries : List (List String × FileEntry)
  deriving Repr

namespace FileSystem

def empty : FileSystem := ⟨[]⟩

/-- What stands at a place. -/
def entry? (fs : FileSystem) (place : List String) : Option FileEntry :=
  if place.isEmpty then some .directory
  else (fs.entries.find? (·.1 == place)).map (·.2)

/-- Puts something at a place, in place of what stood there. -/
def put (fs : FileSystem) (place : List String) (entry : FileEntry) : FileSystem :=
  if fs.entries.any (·.1 == place) then
    ⟨fs.entries.map fun e => if e.1 == place then (place, entry) else e⟩
  else ⟨fs.entries ++ [(place, entry)]⟩

/-- Longest name in bytes. -/
def longestName : Nat := 255

/-- **Where names lead** from a place that must be a directory for another
name to follow. The answer is a place at which something stands. -/
def walk (fs : FileSystem) (place : List String) : List String → Except FileError (List String)
  | [] => .ok place
  | name :: rest =>
    match fs.entry? place with
    | some .directory =>
      if name = ".." then fs.walk place.dropLast rest
      else if longestName < name.utf8ByteSize then .error .nameTooLong
      else
        match fs.entry? (place ++ [name]) with
        | some _ => fs.walk (place ++ [name]) rest
        | none => .error .notFound
    | some (.file _) => .error .notDirectory
    | none => .error .notFound

/-- Whether a directory stands at the end of some names. -/
def isDirectory (fs : FileSystem) (names : List String) : Bool :=
  match fs.walk [] names with
  | .ok place => fs.entry? place == some .directory
  | .error _ => false

/-- Makes one directory; everything above it has to be there. -/
def makeDirectory (fs : FileSystem) (names : List String) : Except FileError FileSystem :=
  match names.getLast? with
  | none => .error .alreadyExists
  | some name => do
    let parent ← fs.walk [] names.dropLast
    match fs.entry? parent with
    | some .directory =>
      if name = ".." then .error .alreadyExists
      else if longestName < name.utf8ByteSize then .error .nameTooLong
      else if (fs.entry? (parent ++ [name])).isSome then .error .alreadyExists
      else .ok (fs.put (parent ++ [name]) .directory)
    | _ => .error .notDirectory

/-- Makes a directory and those above it, given their names backwards. What
was made before an error stays. -/
def makeDirectoriesBackwards (fs : FileSystem) : List String → Except FileError Unit × FileSystem
  | [] => (.ok (), fs)
  | name :: above =>
    let names := (name :: above).reverse
    match fs.makeDirectory names with
    | .ok fs => (.ok (), fs)
    | .error .notFound =>
      match fs.makeDirectoriesBackwards above with
      | (.error e, fs) => (.error e, fs)
      | (.ok (), fs) =>
        match fs.makeDirectory names with
        | .ok fs => (.ok (), fs)
        | .error e => if fs.isDirectory names then (.ok (), fs) else (.error e, fs)
    | .error e => if fs.isDirectory names then (.ok (), fs) else (.error e, fs)

/-- **Makes a directory and every one above it** that is missing; a
directory that is there already is fine. -/
def makeDirectories (fs : FileSystem) (path : String) : Except FileError Unit × FileSystem :=
  if path.toList.contains '\x00' then (.error .zeroInName, fs)
  else fs.makeDirectoriesBackwards (Path.names path).reverse

/-- **Writes a file**, which replaces what it held. -/
def write (fs : FileSystem) (path : String) (contents : List UInt8) :
    Except FileError FileSystem := do
  if path.toList.contains '\x00' then throw .zeroInName
  let names := Path.names path
  match names.getLast? with
  | none => throw .isDirectory
  | some name =>
    let parent ← fs.walk [] names.dropLast
    match fs.entry? parent with
    | some .directory =>
      if name = ".." then throw .isDirectory
      else if longestName < name.utf8ByteSize then throw .nameTooLong
      else
        match fs.entry? (parent ++ [name]), Path.asksForDirectory path with
        | some .directory, _ => throw .isDirectory
        | some (.file _), true => throw .notDirectory
        | none, true => throw .isDirectory
        | _, false => return fs.put (parent ++ [name]) (.file contents)
    | _ => throw .notDirectory

/-- The bytes of a file. -/
def read (fs : FileSystem) (path : String) : Except FileError (List UInt8) := do
  if path.toList.contains '\x00' then throw .zeroInName
  if path = "" then throw .notFound
  let place ← fs.walk [] (Path.names path)
  match fs.entry? place with
  | some (.file contents) =>
    if Path.asksForDirectory path then throw .notDirectory else return contents
  | some .directory => throw .isDirectory
  | none => throw .notFound

/-- **The text of a file.** -/
def readText (fs : FileSystem) (path : String) : Except FileError String := do
  match Text.decodeUtf8? (← fs.read path) with
  | some text => return text
  | none => throw .notText

/-- Every file below a directory, with the names that lead to it from
there. -/
def filesBelow (fs : FileSystem) (directory : List String) : List (List String × List UInt8) :=
  fs.entries.filterMap fun (place, entry) =>
    match entry with
    | .file contents =>
      if directory.isPrefixOf place then some (place.drop directory.length, contents) else none
    | .directory => none

/-- Everything but a directory and what is in it. -/
def remove (fs : FileSystem) (directory : List String) : FileSystem :=
  ⟨fs.entries.filter fun e => !directory.isPrefixOf e.1⟩

end FileSystem

end LedgerNet
