/-!
Storage: folders and files by their paths, as far as settings are kept in them. A path is a text
whose parts are parted by slashes; every part but the last has to name a folder.
-/

set_option autoImplicit false
set_option relaxedAutoImplicit false

namespace Switchboard

inductive StorageError
  | notFound
  | alreadyExists
  | notFolder
  | isFolder
  deriving DecidableEq, Repr

def StorageError.message : StorageError → String
  | .notFound => "No such file or directory (os error 2)"
  | .alreadyExists => "File exists (os error 17)"
  | .notFolder => "Not a directory (os error 20)"
  | .isFolder => "Is a directory (os error 21)"

/-- Where a thing is kept: the names from the root down. -/
abbrev Location := List String

inductive Kept
  | folder
  | file (octets : List UInt8)
  deriving DecidableEq

/-- Everything that is kept; of two entries for one location the first counts. -/
structure Storage where
  entries : List (Location × Kept)

namespace Storage

def empty : Storage := ⟨[]⟩

/-- What is kept at a location; the root is a folder. -/
def kept? (storage : Storage) (place : Location) : Option Kept :=
  if place = [] then some .folder
  else (storage.entries.find? fun entry => entry.1 = place).map Prod.snd

def keep (storage : Storage) (place : Location) (thing : Kept) : Storage :=
  ⟨(place, thing) :: storage.entries⟩

/-- The parts of a path; empty parts and single dots name the folder they stand in. -/
def parts (path : String) : List String :=
  ((path.toList.splitOn '/').map String.ofList).filter fun part => part ≠ "" ∧ part ≠ "."

def isAbsolute (path : String) : Bool := path.toList.head? = some '/'

/-- A path inside a folder; an absolute path stands for itself. -/
def join (folder path : String) : String :=
  if isAbsolute path ∨ folder = "" then path
  else if folder.toList.getLast? = some '/' then folder ++ path
  else folder ++ "/" ++ path

def onward (place : Location) (part : String) : Location :=
  if part = ".." then place.dropLast else place ++ [part]

/-- Follows parts from a place; all but the last have to lead to folders. -/
def follow (storage : Storage) (place : Location) : List String → Except StorageError Location
  | [] => .ok place
  | part :: rest =>
    match storage.kept? place with
    | some .folder => follow storage (onward place part) rest
    | some (.file _) => .error .notFolder
    | none => .error .notFound

def locate (storage : Storage) (path : String) : Except StorageError Location :=
  follow storage [] (parts path)

/-- Whether a path can name a folder only, because its last part does. -/
def namesFolder (path : String) : Bool :=
  match path.toList.reverse with
  | '/' :: _ => true
  | '.' :: rest => rest = [] || rest.head? = some '/' || rest = ['.'] || rest.take 2 = ['.', '/']
  | _ => false

def read (storage : Storage) (path : String) : Except StorageError (List UInt8) := do
  let place ← storage.locate path
  match storage.kept? place with
  | some (.file octets) => if namesFolder path then .error .notFolder else .ok octets
  | some .folder => .error (if path = "" then .notFound else .isFolder)
  | none => .error .notFound

/-- Replaces or makes the file at a path; its folder has to exist. -/
def write (storage : Storage) (path : String) (octets : List UInt8) :
    Except StorageError Storage := do
  let place ← storage.locate path
  match storage.kept? place with
  | some .folder => .error (if path = "" then .notFound else .isFolder)
  | some (.file _) =>
    if namesFolder path then .error .notFolder else .ok (storage.keep place (.file octets))
  | none => if namesFolder path then .error .isFolder else .ok (storage.keep place (.file octets))

def makeFrom (storage : Storage) (place : Location) :
    List String → Except StorageError Storage
  | [] => .ok storage
  | part :: rest =>
    let next := onward place part
    match storage.kept? next with
    | some .folder => makeFrom storage next rest
    | some (.file _) => .error (if rest = [] then .alreadyExists else .notFolder)
    | none => makeFrom (storage.keep next .folder) next rest

/-- Makes the folder at a path and every folder above it, as far as they are missing. -/
def makeFolders (storage : Storage) (path : String) : Except StorageError Storage :=
  makeFrom storage [] (parts path)

end Storage

end Switchboard
