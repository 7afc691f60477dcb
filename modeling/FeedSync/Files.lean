import FeedSync.Config
import FeedSync.Text.Utf8

/-!
# Files

A file tree as a program with a working directory sees it, and reading the configuration from it.
-/

namespace FeedSync

/-- What a name in a file tree stands for. -/
inductive Entry where
  | file (bytes : List UInt8)
  | directory (entries : List (String × Entry))
  deriving Inhabited

namespace Entry

/-- A place in a file tree. The directories above the working directory are there, but nothing is
known of what else they hold. -/
inductive Place where
  /-- An entry below the working directory, with the directories around it, the innermost first. -/
  | within (entry : Entry) (around : List Entry)
  | above

/-- Whether a place is a directory. -/
def Place.isDirectory : Place → Bool
  | .within (.file _) _ => false
  | _ => true

/-- Adds an entry at a path, given by its names, to the entries of a directory. -/
def add (entry : Entry) : List String → List (String × Entry) → List (String × Entry)
  | [], entries => entries
  | [name], entries => entries ++ [(name, entry)]
  | name :: path, entries =>
    let inner := match entries.lookup name with
      | some (.directory inner) => inner
      | _ => []
    (name, .directory (add entry path inner)) :: entries.filter (·.1 != name)

/-- The directory that holds some entries at some paths. -/
def ofPaths (entries : List (String × Entry)) : Entry :=
  .directory (entries.foldl (fun held (path, entry) => add entry (path.splitOn "/") held) [])

/-- The longest name of an entry, in bytes. -/
def longestName : Nat := 255

/-- The longest path, in bytes. -/
def longestPath : Nat := 4095

/-- Goes one step down or up. -/
def Place.step (place : Place) (name : String) : Except FileFault Place :=
  if !place.isDirectory then .error .notDirectory
  else if name.isEmpty || name == "." then .ok place
  else if name == ".." then
    match place with
    | .within _ (outer :: around) => .ok (.within outer around)
    | _ => .ok .above
  else if name.utf8ByteSize > longestName then .error .nameTooLong
  else
    match place with
    | .within (.directory entries) around =>
      match entries.lookup name with
      | some entry => .ok (.within entry (.directory entries :: around))
      | none => .error .notFound
    | _ => .error .notFound

/-- The place of a path, seen from a working directory. -/
def find (root : Entry) (path : String) : Except FileFault Place :=
  if path.contains '\x00' then .error .nulInName
  else if path.isEmpty then .error .notFound
  else if path.utf8ByteSize > longestPath then .error .nameTooLong
  else
    let start := if path.startsWith "/" then .above else .within root []
    (path.splitOn "/").foldlM Place.step start

/-- The bytes of the file at a path. -/
def bytesOf (root : Entry) (path : String) : Except FileFault (List UInt8) := do
  match ← root.find path with
  | .within (.file bytes) _ => .ok bytes
  | _ => .error .isDirectory

/-- The text of what was read from the file at a path. -/
def textOfBytes (path : String) (bytes : Except FileFault (List UInt8)) :
    Except InfraError String :=
  match bytes with
  | .error fault => .error (.fileSystem path fault)
  | .ok bytes =>
    match Text.utf8? bytes with
    | some text => .ok text
    | none => .error (.fileSystem path .notUtf8)

/-- The text of the file at a path. -/
def textOf (root : Entry) (path : String) : Except InfraError String :=
  textOfBytes path (root.bytesOf path)

end Entry

/-- The configuration in what was read from the file at a path. -/
def Config.ofFile (env : Environment) (path : String) (bytes : Except FileFault (List UInt8)) :
    Except InfraError Config := do
  (Config.ofYaml env (← Entry.textOfBytes path bytes)).mapError .config

/-- The configuration in a file. -/
def Config.load (env : Environment) (root : Entry) (path : String) : Except InfraError Config :=
  Config.ofFile env path (root.bytesOf path)

end FeedSync
