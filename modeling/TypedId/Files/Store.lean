import TypedId.Files.Path
import TypedId.Text.Quoted

/-!
# Files and directories

A store holds the files and directories around a working directory. A text leads to a location by steps from the
working directory or from the root: every step but the last must be a directory, and two points lead to the directory
above. `Store.status` looks a path up; `Store.makeDirectories` and `Store.write` give the store
that they leave, and the fault where there was one.
-/

set_option autoImplicit false

namespace TypedId.Files

/-- Where a location is counted from: the working directory, a directory some levels above it, or the root. -/
inductive Base where
  | working
  | above (levels : Nat)
  | root
  deriving DecidableEq, Repr

/-- A place in the file system, by the names that lead to it. -/
structure Location where
  base : Base
  names : List String
  deriving DecidableEq, Repr

/-- The working directory. -/
def Location.working : Location :=
  ⟨.working, []⟩

/-- The base one level further up. -/
def Base.up : Base → Base
  | .working => .above 1
  | .above levels => .above (levels + 1)
  | .root => .root

/-- The directory above a location. -/
def Location.parent (place : Location) : Location :=
  if place.names.isEmpty then ⟨place.base.up, []⟩ else ⟨place.base, place.names.dropLast⟩

/-- A name below a location. -/
def Location.child (place : Location) (name : String) : Location :=
  ⟨place.base, place.names ++ [name]⟩

/-- A file with its bytes, or a directory. -/
inductive Entry where
  | file (bytes : List Nat)
  | directory
  deriving DecidableEq, Repr

/-- Files and directories by their locations. The bases themselves are always directories. -/
structure Store where
  entries : List (Location × Entry)

/-- What a path leads to. -/
inductive Status where
  | missing
  | directory
  | file (bytes : List Nat)
  /-- A path with a null character leads nowhere and is refused. -/
  | refused
  deriving DecidableEq, Repr

/-- Why the file system does not do what is asked. -/
inductive Fault where
  | notFound
  | alreadyExists
  | notDirectory
  | isDirectory
  | nullCharacter
  deriving DecidableEq, Repr

/-- A fault and the path that was given. -/
structure FileError where
  fault : Fault
  path : String
  deriving DecidableEq, Repr

/-- The wording of a file error. -/
def FileError.message (error : FileError) : String :=
  match error.fault with
  | .notFound => "[Errno 2] No such file or directory: " ++ Text.quote error.path
  | .alreadyExists => "[Errno 17] File exists: " ++ Text.quote error.path
  | .notDirectory => "[Errno 20] Not a directory: " ++ Text.quote error.path
  | .isDirectory => "[Errno 21] Is a directory: " ++ Text.quote error.path
  | .nullCharacter => "embedded null byte"

namespace Store

/-- The entry at a location. -/
def entry? (store : Store) (place : Location) : Option Entry :=
  if place.names.isEmpty then some .directory
  else (store.entries.find? fun item => item.1 == place).map Prod.snd

/-- A store with an entry at a location, in place of the one there. -/
def put (store : Store) (place : Location) (entry : Entry) : Store :=
  if store.entries.any fun item => item.1 == place then
    ⟨store.entries.map fun item => if item.1 == place then (place, entry) else item⟩
  else ⟨store.entries ++ [(place, entry)]⟩

/-- Goes one step on from a location, which must be a directory. -/
def step (store : Store) (place : Location) (name : String) : Except Fault Location :=
  match store.entry? place with
  | none => .error .notFound
  | some (.file _) => .error .notDirectory
  | some .directory =>
    if name = "" || name = "." then .ok place else if name = ".." then .ok place.parent else .ok (place.child name)

/-- Goes on from a location by the steps given. -/
def walk (store : Store) (place : Location) : List String → Except Fault Location
  | [] => .ok place
  | name :: rest => (store.step place name).bind fun next => store.walk next rest

/-- Where the steps of a text begin. -/
def origin (text : String) : Location :=
  if text.toList.head? = some '/' then ⟨.root, []⟩ else .working

/-- The location that a text leads to. -/
def locate (store : Store) (text : String) : Except Fault Location :=
  if text.toList.contains (Char.ofNat 0) then .error .nullCharacter
  else if text.isEmpty then .error .notFound
  else store.walk (origin text) (pieces text)

/-- What a text leads to. -/
def status (store : Store) (text : String) : Status :=
  match store.locate text with
  | .error .nullCharacter => .refused
  | .error _ => .missing
  | .ok place =>
    match store.entry? place with
    | none => .missing
    | some .directory => .directory
    | some (.file bytes) => .file bytes

/-- Makes one directory. -/
def makeDirectory (store : Store) (text : String) : Except Fault Store :=
  (store.locate text).bind fun place =>
    match store.entry? place with
    | some _ => .error .alreadyExists
    | none => .ok (store.put place .directory)

/-- What is left after an attempt to change a store: the store, and what went wrong. -/
abbrev Attempt := Store × Option FileError

/-- Makes a directory unless there is one already. -/
def ensureDirectory (store : Store) (text : String) : Attempt :=
  match store.makeDirectory text with
  | .ok made => (made, none)
  | .error fault => (store, if store.status text = .directory then none else some ⟨fault, text⟩)

/-- Makes the directory with a root and names, given last name first, and the directories above it that are missing.
When one of them cannot be made, those made before it stay. -/
def ensureAll (store : Store) (root : String) : List String → Attempt
  | [] => store.ensureDirectory (Path.mk root []).text
  | name :: above =>
    let text := (Path.mk root (name :: above).reverse).text
    match store.makeDirectory text with
    | .error .notFound =>
      match store.ensureAll root above with
      | (made, none) => made.ensureDirectory text
      | failed => failed
    | _ => store.ensureDirectory text

/-- Makes a directory with the directories above it, unless they are there. -/
def makeDirectories (store : Store) (path : Path) : Attempt :=
  store.ensureAll path.root path.names.reverse

/-- The location of a file that is to be written; a path that ends with a slash can only be a directory. -/
def fileLocation (store : Store) (text : String) : Except Fault Location :=
  if text.toList.contains (Char.ofNat 0) then .error .nullCharacter
  else if text.isEmpty then .error .notFound
  else
    match (pieces text).reverse.dropWhile (· == "") with
    | [] => .error .isDirectory
    | name :: above =>
      (store.walk (origin text) (name :: above).reverse).bind fun place =>
        if text.toList.getLast? = some '/' then .error .isDirectory else .ok place

/-- Writes a file, in place of the one there. -/
def write (store : Store) (text : String) (bytes : List Nat) : Attempt :=
  match store.fileLocation text with
  | .error fault => (store, some ⟨fault, text⟩)
  | .ok place =>
    match store.entry? place with
    | some .directory => (store, some ⟨.isDirectory, text⟩)
    | _ => (store.put place (.file bytes), none)

end Store

end TypedId.Files
