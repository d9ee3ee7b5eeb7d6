import BlockTemplates.Data
import BlockTemplates.Files.Path
import BlockTemplates.SystemError

/-! File systems as values: folders, files and symbolic links. A place is the list of folder names
that leads from the root to a node without passing through a link. -/

namespace BlockTemplates

/-- What a folder can hold. The entries of a folder are in increasing order of their names. -/
inductive Node where
  /-- A file and its text; there is none when its bytes are no text. -/
  | file (content : Option String)
  | folder (entries : List (String × Node))
  | link (target : Path)
  deriving Repr, Inhabited

abbrev Place := List String

structure FileSystem where
  root : Node
  working : Place
  deriving Inhabited

namespace Node

def empty : Node := .folder []

def entries : Node → List (String × Node)
  | folder entries => entries
  | _ => []

def isFolder : Node → Bool
  | folder _ => true
  | _ => false

/-- The node at a place below a node. -/
def get? : Node → Place → Option Node
  | node, [] => some node
  | folder entries, name :: rest => (entries.lookup name).bind (get? · rest)
  | _, _ :: _ => none

def setEntry (name : String) (node : Option Node) (entries : List (String × Node)) :
    List (String × Node) :=
  match node with
  | some node => Dict.insertEntry name node entries
  | none => entries.filter (·.1 ≠ name)

/-- The node with another one at a place below it, or none; nothing changes unless the place
lies in a folder. -/
def set (new : Option Node) : Node → Place → Node
  | node, [] => new.getD node
  | folder entries, [name] => folder (setEntry name new entries)
  | folder entries, name :: rest =>
    match entries.lookup name with
    | none => folder entries
    | some node => folder (setEntry name (some (set new node rest)) entries)
  | node, _ :: _ => node

end Node

inductive Target where
  | present (place : Place)
  /-- To a name that a folder does not hold, with a slash after it or without. -/
  | absent (folder : Place) (name : String) (slashed : Bool)
  deriving Repr, DecidableEq, Inhabited

namespace FileSystem

def empty : FileSystem := ⟨.empty, []⟩

def node? (files : FileSystem) (place : Place) : Option Node := files.root.get? place

def maxLinks : Nat := 40

def maxName : Nat := 255

/-- Where the pieces of a path lead from a place, through at most `links` links. A link at the very
end is followed only when `follows`. -/
def locateFrom (files : FileSystem) (follows : Bool) (links : Nat) (place : Place) (pieces : List String) :
    Except SystemError Target :=
  match pieces with
  | [] => .ok (.present place)
  | piece :: rest =>
    match files.node? place with
    | some (.folder entries) =>
      if piece = "" ∨ piece = "." then locateFrom files follows links place rest
      else if piece = ".." then locateFrom files follows links place.dropLast rest
      else if maxName < piece.utf8ByteSize then .error .nameTooLong
      else
        match entries.lookup piece with
        | none =>
          if rest.all (· = "") then .ok (.absent place piece (!rest.isEmpty)) else .error .notFound
        | some (.link target) =>
          if rest.all (· = "") && !follows then .ok (.present (place ++ [piece]))
          else
            match links with
            | 0 => .error .tooManyLinks
            | links + 1 =>
              locateFrom files follows links (if target.isAbsolute then [] else place) (target.pieces ++ rest)
        | some _ => locateFrom files follows links (place ++ [piece]) rest
    | _ => .error .notADirectory
termination_by (links, pieces.length)

def locate (files : FileSystem) (follows : Bool) (path : Path) : Except SystemError Target :=
  if path.text.isEmpty then .error .notFound
  else if path.text.toList.contains '\x00' then .error .invalidName
  else locateFrom files follows maxLinks (if path.isAbsolute then [] else files.working) path.pieces

/-- The place of the node that a path leads to. Two paths that lead to the same folder have the
same place. -/
def resolve (files : FileSystem) (path : Path) : Except SystemError Place := do
  match ← files.locate true path with
  | .present place => return place
  | .absent _ _ _ => throw .notFound

def stat (files : FileSystem) (path : Path) : Except SystemError Node := do
  match files.node? (← files.resolve path) with
  | some node => return node
  | none => throw .notFound

def isFolder (files : FileSystem) (path : Path) : Bool :=
  match files.stat path with
  | .ok (.folder _) => true
  | _ => false

def isFile (files : FileSystem) (path : Path) : Bool :=
  match files.stat path with
  | .ok (.file _) => true
  | _ => false

def readText (files : FileSystem) (path : Path) : Except SystemError String := do
  match ← files.stat path with
  | .file (some content) => return content
  | .file none => throw .invalidText
  | _ => throw .isADirectory

def list (files : FileSystem) (path : Path) : Except SystemError (List String) := do
  match ← files.stat path with
  | .folder entries => return entries.map Prod.fst
  | _ => throw .notADirectory

def put (files : FileSystem) (place : Place) (node : Option Node) : FileSystem :=
  { files with root := files.root.set node place }

/-- A file with the given text takes the place of what a path leads to. A slash at the end, also one
in a link, stands for a folder. -/
def write (files : FileSystem) (path : Path) (content : Option String) : Except SystemError FileSystem := do
  if path.text.toList.contains '\x00' then throw .invalidName
  if path.text.toList.getLast? = some '/' then throw .isADirectory
  match ← files.locate true path with
  | .absent folder name slashed =>
    if slashed then throw .isADirectory
    return files.put (folder ++ [name]) (some (.file content))
  | .present place =>
    match files.node? place with
    | some (.file _) => return files.put place (some (.file content))
    | _ => throw .isADirectory

def create (files : FileSystem) (path : Path) (node : Node) : Except SystemError FileSystem := do
  match ← files.locate false path with
  | .absent folder name _ => return files.put (folder ++ [name]) (some node)
  | .present _ => throw .alreadyExists

/-- What a change in several steps comes to: the file system after it, and what has stopped it if
it has not been completed. The steps before that one stay. -/
structure Change where
  files : FileSystem
  stopped : Option SystemError
  deriving Inhabited

def Change.step (files : FileSystem) : Except SystemError FileSystem → Change
  | .ok changed => ⟨changed, none⟩
  | .error error => ⟨files, some error⟩

def Change.andThen (change : Change) (next : FileSystem → Change) : Change :=
  match change.stopped with
  | none => next change.files
  | some _ => change

/-- The folder of the given components, which are in reverse, and every folder above it. -/
def createFoldersOf (files : FileSystem) : List Path.Component → Change
  | [] => ⟨files, none⟩
  | last :: before =>
    let path := Path.ofComponents (last :: before).reverse
    let attempt (files : FileSystem) : Change :=
      if files.isFolder path then ⟨files, none⟩ else .step files (files.create path .empty)
    match files.create path .empty with
    | .error .notFound => (createFoldersOf files before).andThen attempt
    | _ => attempt files

def createFolders (files : FileSystem) (path : Path) : Change :=
  createFoldersOf files path.components.reverse

def writeDeep (files : FileSystem) (path : Path) (content : Option String) : Change :=
  let folders : Change := match path.parent? with
    | some folder => if folder.text.isEmpty then ⟨files, none⟩ else files.createFolders folder
    | none => ⟨files, none⟩
  folders.andThen (fun files => .step files (files.write path content))

def remove (files : FileSystem) (path : Path) : Except SystemError FileSystem := do
  match ← files.locate false path with
  | .present place => return files.put place none
  | .absent _ _ _ => throw .notFound

/-- The file system with a node at a path, whatever is there before, in folders that are made where
they are missing. -/
def mount (files : FileSystem) (path : Path) (node : Node) : FileSystem :=
  let files := match path.parent? with
    | some folder => if folder.text.isEmpty then files else (files.createFolders folder).files
    | none => files
  match files.locate false path with
  | .ok (.absent folder name _) => files.put (folder ++ [name]) (some node)
  | .ok (.present place) => files.put place (some node)
  | .error _ => files

end FileSystem

end BlockTemplates
