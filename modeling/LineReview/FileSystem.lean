set_option autoImplicit false

namespace LineReview.Path

/-- The pieces of a path between its slashes. -/
def pieces (path : String) : List String :=
  (path.toList.splitOn '/').map String.ofList

def isAbsolute (path : String) : Bool :=
  path.toList.head? == some '/'

/-- The piece names nothing. -/
def isVoid (piece : String) : Bool :=
  piece == "" || piece == "."

/-- The pieces up to the last one that names something. -/
def trimVoid (pieces : List String) : List String :=
  (pieces.reverse.dropWhile isVoid).reverse

/-- The last name of a path, unless that is the name of the folder above. -/
def fileName? (path : String) : Option String :=
  match ((pieces path).filter fun piece => !isVoid piece).getLast? with
  | some ".." => none
  | name => name

/-- What follows the last dot of a name that has a dot after its first character. -/
def suffix? (name : List Char) : Option (List Char) :=
  match name.reverse.dropWhile (· != '.') with
  | [] | [_] => none
  | _ => some (name.reverse.takeWhile (· != '.')).reverse

/-- The extension of the last name of a path, without its dot. -/
def extension? (path : String) : Option String := do
  let name ← fileName? path
  return String.ofList (← suffix? name.toList)

/-- The path without its last name. A path of one name lies in the folder without a name, and
neither the root nor the empty path lies anywhere. -/
def parent? (path : String) : Option String :=
  match pieces path with
  | [] => none
  | first :: rest =>
    match trimVoid rest with
    | [] => if first == "" then none else some ""
    | names =>
      match trimVoid names.dropLast with
      | [] => some (if first == "" then "/" else first)
      | kept => some (String.intercalate "/" (first :: kept))

def inFolder (folder name : String) : String :=
  if folder == "" || folder.toList.getLast? == some '/' then folder ++ name
  else folder ++ "/" ++ name

end LineReview.Path

namespace LineReview

inductive FileError where
  | notFound
  | notFolder
  | isFolder
  | alreadyThere
  | nameTooLong
  | strayNul
  | notText
  deriving DecidableEq

def FileError.message : FileError → String
  | .notFound => "No such file or directory (os error 2)"
  | .notFolder => "Not a directory (os error 20)"
  | .isFolder => "Is a directory (os error 21)"
  | .alreadyThere => "File exists (os error 17)"
  | .nameTooLong => "File name too long (os error 36)"
  | .strayNul => "file name contained an unexpected NUL byte"
  | .notText => "stream did not contain valid UTF-8"

/-- A place in a tree: the names on the way to it from the root, the nearest name first. -/
abbrev Location := List String

inductive Node where
  | folder
  | file (content : ByteArray)

/-- What stands at a location, of two entries there the first one. The root is a folder. -/
def Node.find? (entries : List (Location × Node)) : Location → Option Node
  | [] => some .folder
  | name :: parent => (entries.find? fun entry => entry.1 == name :: parent).map Prod.snd

/-- Everything stands in a folder. -/
def Node.Rooted (entries : List (Location × Node)) : Prop :=
  ∀ name parent, (Node.find? entries (name :: parent)).isSome = true →
    Node.find? entries parent = some .folder

theorem Node.find?_cons (entries : List (Location × Node)) (name : String)
    (parent other : Location) (node : Node) :
    Node.find? ((name :: parent, node) :: entries) other =
      if name :: parent = other then some node else Node.find? entries other := by
  cases other with
  | nil => rfl
  | cons last above =>
      rw [Node.find?, List.find?_cons]
      by_cases same : name :: parent = last :: above
      · rw [beq_iff_eq.mpr same, if_pos same]
        rfl
      · rw [beq_eq_false_iff_ne.mpr same, if_neg same]
        rfl

/-- An entry in a folder keeps the entries rooted, unless it takes the place of a folder. -/
theorem Node.Rooted.cons {entries : List (Location × Node)} (rooted : Node.Rooted entries)
    {name : String} {parent : Location} (node : Node)
    (inside : Node.find? entries parent = some .folder)
    (free : Node.find? entries (name :: parent) ≠ some .folder) :
    Node.Rooted ((name :: parent, node) :: entries) := by
  intro other above found
  rw [Node.find?_cons] at found ⊢
  have below : Node.find? entries above = some .folder := by
    by_cases same : name :: parent = other :: above
    · cases same
      exact inside
    · rw [if_neg same] at found
      exact rooted other above found
  have apart : name :: parent ≠ above := by
    intro same
    rw [← same] at below
    exact free below
  rw [if_neg apart, below]

/-- A tree as the list of its entries below the root. -/
structure FileTree where
  entries : List (Location × Node)
  rooted : Node.Rooted entries

def textOfBytes (content : ByteArray) : Except FileError String :=
  match String.fromUTF8? content with
  | some text => .ok text
  | none => .error .notText

namespace FileTree

def empty : FileTree where
  entries := []
  rooted := nofun

def get? (tree : FileTree) (location : Location) : Option Node :=
  Node.find? tree.entries location

theorem get?_parent (tree : FileTree) {name : String} {parent : Location}
    (taken : (tree.get? (name :: parent)).isSome = true) : tree.get? parent = some .folder :=
  tree.rooted name parent taken

def isFolder (tree : FileTree) (location : Location) : Bool :=
  match tree.get? location with
  | some .folder => true
  | _ => false

theorem isFolder_iff {tree : FileTree} {location : Location} :
    tree.isFolder location = true ↔ tree.get? location = some .folder := by
  unfold isFolder
  split <;> simp_all

/-- Puts a node at a location inside a folder, unless a folder stands there already. -/
def put (tree : FileTree) (location : Location) (node : Node) : FileTree :=
  match location with
  | [] => tree
  | name :: parent =>
    if fits : tree.isFolder parent = true ∧ ¬tree.isFolder (name :: parent) = true then {
      entries := (name :: parent, node) :: tree.entries
      rooted := tree.rooted.cons node (isFolder_iff.mp fits.1) (mt isFolder_iff.mpr fits.2) }
    else tree

/-- The tree of nodes, of which each is listed after the folder that it stands in. -/
def ofList (nodes : List (Location × Node)) : FileTree :=
  nodes.foldl (fun tree entry => tree.put entry.1 entry.2) .empty

/-- The longest name of one entry, in bytes. -/
def maxName : Nat := 255

/-- The longest path, in bytes. -/
def maxPath : Nat := 4095

def needFolder (tree : FileTree) (location : Location) : Except FileError Unit :=
  match tree.get? location with
  | some .folder => .ok ()
  | some (.file _) => .error .notFolder
  | none => .error .notFound

/-- The location that a piece of a path leads to from a location. -/
def step (tree : FileTree) (location : Location) (piece : String) : Except FileError Location := do
  tree.needFolder location
  if Path.isVoid piece then return location
  else if piece == ".." then return location.tail
  else if maxName < piece.utf8ByteSize then throw .nameTooLong
  else if (tree.get? (piece :: location)).isSome then return piece :: location
  else throw .notFound

/-- The location that pieces lead to from a location. -/
def walk (tree : FileTree) (start : Location) (pieces : List String) : Except FileError Location :=
  pieces.foldlM tree.step start

/-- Demands of a path what no tree can make up for. -/
def checkPath (path : String) : Except FileError Unit :=
  if path.toList.contains '\x00' then .error .strayNul
  else if path == "" then .error .notFound
  else if maxPath < path.utf8ByteSize then .error .nameTooLong
  else .ok ()

/-- Where a path starts: at the root, or at the folder it is relative to. -/
def start (folder : Location) (path : String) : Location :=
  if Path.isAbsolute path then [] else folder

def locate (tree : FileTree) (folder : Location) (path : String) : Except FileError Location := do
  checkPath path
  tree.walk (start folder path) (Path.pieces path)

def nodeAt? (tree : FileTree) (folder : Location) (path : String) : Option Node :=
  match tree.locate folder path with
  | .ok location => tree.get? location
  | .error _ => none

def isFile (tree : FileTree) (folder : Location) (path : String) : Bool :=
  match tree.nodeAt? folder path with
  | some (.file _) => true
  | _ => false

def isTaken (tree : FileTree) (folder : Location) (path : String) : Bool :=
  (tree.nodeAt? folder path).isSome

def read (tree : FileTree) (folder : Location) (path : String) : Except FileError ByteArray := do
  match tree.get? (← tree.locate folder path) with
  | some (.file content) => return content
  | some .folder => throw .isFolder
  | none => throw .notFound

def readText (tree : FileTree) (folder : Location) (path : String) : Except FileError String := do
  textOfBytes (← tree.read folder path)

/-- Gives a content to the file that a path leads to, which need not be there before. -/
def write (tree : FileTree) (folder : Location) (path : String) (content : ByteArray) :
    Except FileError FileTree := do
  checkPath path
  match (Path.pieces path).reverse.dropWhile (· == "") with
  | [] => throw .isFolder
  | name :: before =>
    let parent ← tree.walk (start folder path) before.reverse
    tree.needFolder parent
    if name == "." || name == ".." || path.toList.getLast? == some '/' then throw .isFolder
    if maxName < name.utf8ByteSize then throw .nameTooLong
    match tree.get? (name :: parent) with
    | some .folder => throw .isFolder
    | _ => return tree.put (name :: parent) (.file content)

/-- Adds one folder, whose path is given by its name and the pieces before it, the nearest first. -/
def makeFolder (tree : FileTree) (start : Location) (name : String) (before : List String) :
    Except FileError FileTree := do
  let parent ← tree.walk start before.reverse
  tree.needFolder parent
  if name == ".." || (tree.get? (name :: parent)).isSome then throw .alreadyThere
  if maxName < name.utf8ByteSize then throw .nameTooLong
  return tree.put (name :: parent) .folder

def leadsToFolder (tree : FileTree) (start : Location) (pieces : List String) : Bool :=
  ((tree.walk start pieces).bind tree.needFolder).isOk

/-- Adds the folders that are missing on the way along pieces, given the nearest first. What has
been added stays when a later folder cannot be added. -/
def makeFolders (tree : FileTree) (start : Location) :
    List String → FileTree × Except FileError Unit
  | [] => (tree, .ok ())
  | piece :: before =>
    if Path.isVoid piece then makeFolders tree start before
    else
      let accept (tree : FileTree) (error : FileError) : FileTree × Except FileError Unit :=
        (tree, if tree.leadsToFolder start (piece :: before).reverse then .ok () else .error error)
      match tree.makeFolder start piece before with
      | .ok added => (added, .ok ())
      | .error .notFound =>
        match makeFolders tree start before with
        | (tree, .error error) => (tree, .error error)
        | (tree, .ok ()) =>
          match tree.makeFolder start piece before with
          | .ok added => (added, .ok ())
          | .error error => accept tree error
      | .error error => accept tree error

/-- Adds the folder that a path leads to, together with the folders that are missing on the way. -/
def makeFoldersAt (tree : FileTree) (folder : Location) (path : String) :
    FileTree × Except FileError Unit :=
  match checkPath path with
  | .error error => (tree, .error error)
  | .ok () => tree.makeFolders (start folder path) (Path.pieces path).reverse

theorem get?_put {tree : FileTree} {name : String} {parent : Location}
    (inside : tree.get? parent = some .folder) (free : tree.get? (name :: parent) ≠ some .folder)
    (node : Node) (other : Location) :
    (tree.put (name :: parent) node).get? other =
      if name :: parent = other then some node else tree.get? other := by
  have fits : tree.isFolder parent = true ∧ ¬tree.isFolder (name :: parent) = true :=
    ⟨isFolder_iff.mpr inside, mt isFolder_iff.mp free⟩
  rw [put, dif_pos fits]
  exact Node.find?_cons tree.entries name parent other node

end FileTree

structure Environment where
  /-- The folder that relative paths start in. -/
  folder : Location
  /-- The environment variables with their values. -/
  bindings : List (String × String)
  /-- The home folder of the account, for want of a variable that names it. -/
  accountHome : Option String
  /-- The bytes of the standard input. -/
  input : ByteArray
  /-- Panels are written with colours. -/
  coloured : Bool

namespace Environment

def valueOf? (environment : Environment) (name : String) : Option String :=
  environment.bindings.lookup name

/-- The home folder: the variable `HOME` unless it is empty, the account's otherwise. -/
def home? (environment : Environment) : Option String :=
  match environment.valueOf? "HOME" with
  | some home => if home == "" then environment.accountHome else some home
  | none => environment.accountHome

/-- The folder of the user's settings: the variable `XDG_CONFIG_HOME` if it holds an absolute path,
and `.config` in the home folder otherwise. -/
def settingsFolder? (environment : Environment) : Option String :=
  environment.home?.map fun home =>
    match environment.valueOf? "XDG_CONFIG_HOME" with
    | some folder => if Path.isAbsolute folder then folder else Path.inFolder home ".config"
    | none => Path.inFolder home ".config"

end Environment

end LineReview
