import BlockTemplates.Text.Search

/-! Paths with slashes. A path is kept as it is written; its components leave out what makes no
difference: repeated and trailing slashes, and single dots other than a leading one. -/

namespace BlockTemplates

structure Path where
  text : String
  deriving Repr, DecidableEq, Inhabited

namespace Path

inductive Component where
  | root
  | here
  | up
  | name (s : String)
  deriving Repr, DecidableEq, Inhabited

def Component.text : Component → String
  | root => "/"
  | here => "."
  | up => ".."
  | name s => s

def pieces (path : Path) : List String := (Text.splitBy (· = '/') path.text.toList).map String.ofList

def isAbsolute (path : Path) : Bool := path.text.toList.head? = some '/'

/-- The component that a piece stands for, unless it makes no difference. -/
def component? (piece : String) : Option Component :=
  if piece = "" ∨ piece = "." then none
  else if piece = ".." then some .up
  else some (.name piece)

def components (path : Path) : List Component :=
  let rest := path.pieces.filterMap component?
  if path.isAbsolute then .root :: rest
  else if path.pieces.head? = some "." then .here :: rest
  else rest

def joinText (components : List Component) : String := "/".intercalate (components.map Component.text)

def ofComponents : List Component → Path
  | .root :: rest => ⟨"/" ++ joinText rest⟩
  | components => ⟨joinText components⟩

/-- A path below a folder; an absolute path stands for itself. -/
def join (folder path : Path) : Path :=
  if path.isAbsolute then path
  else if folder.text.isEmpty || folder.text.toList.getLast? = some '/' then ⟨folder.text ++ path.text⟩
  else ⟨folder.text ++ "/" ++ path.text⟩

def fileName? (path : Path) : Option String :=
  match path.components.getLast? with
  | some (.name s) => some s
  | _ => none

/-- What follows the last dot of a name, unless the name starts with that dot. -/
def extensionOf? (name : String) : Option String :=
  match (Text.splitBy (· = '.') name.toList).reverse with
  | last :: before :: rest => if rest.isEmpty && before.isEmpty then none else some (String.ofList last)
  | _ => none

def extension? (path : Path) : Option String := path.fileName?.bind extensionOf?

def parent? (path : Path) : Option Path :=
  match path.components.reverse with
  | [] => none
  | .root :: _ => none
  | _ :: before => some (ofComponents before.reverse)

def below? (folder path : Path) : Option (List Component) :=
  let outer := folder.components
  let inner := path.components
  if outer.isPrefixOf inner then some (inner.drop outer.length) else none

end Path

end BlockTemplates
