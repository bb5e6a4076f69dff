import ServiceContract.Document.Store

/-!
# Documents in a directory

Files and directories as a tree of names, and the loader that reads documents from it. A key is the
path of a file below the base directory, or its full path for a file elsewhere. A path is followed
name by name: every name but the last must be a directory's, and two dots lead to the parent. A path
that does not start at the root starts at the working directory. Links are not modelled.
-/

namespace ServiceContract

open Json (Value)

/-- Files and directories by the names on the way to them from the root. -/
structure FileTree where
  /-- The files with their bytes. -/
  files : List (List String × List UInt8)
  /-- The directories besides the root. -/
  directories : List (List String)
  /-- The working directory. -/
  here : List String

namespace FileTree

/-- A tree with nothing but its root. -/
def empty : FileTree := ⟨[], [], []⟩

/-- The bytes of a file. -/
def file? (tree : FileTree) (path : List String) : Option (List UInt8) := tree.files.lookup path

/-- There is a directory. -/
def isDirectory (tree : FileTree) (path : List String) : Bool :=
  path.isEmpty || decide (path ∈ tree.directories)

/-- The directories on the way from one directory to a directory below it, which comes last. -/
def waysTo : (here below : List String) → List (List String)
  | _, [] => []
  | here, name :: rest => (here ++ [name]) :: waysTo (here ++ [name]) rest

/-- Makes a directory and those on the way to it. -/
def makeDirectory (tree : FileTree) (path : List String) : FileTree :=
  let made := (waysTo [] path).filter fun directory => !tree.isDirectory directory
  { tree with directories := tree.directories ++ made }

/-- Writes a file, and makes the directories on the way to it. -/
def write (tree : FileTree) (path : List String) (bytes : List UInt8) : FileTree :=
  let tree := tree.makeDirectory path.dropLast
  { tree with files := (path, bytes) :: tree.files.filter fun file => file.1 ≠ path }

/-- Removes a file. -/
def remove (tree : FileTree) (path : List String) : FileTree :=
  { tree with files := tree.files.filter fun file => file.1 ≠ path }

/-! ## Paths -/

/-- The names between the slashes of a path. -/
def names (path : String) : List String := (Text.splitAt '/' path.toList).map String.ofList

/-- The written form of a path from the root. -/
def fullPath (path : List String) : String := "/" ++ Text.join "/" path

/-- Goes on from a place by one name. -/
def step (tree : FileTree) (here : List String) (name : String) : Option (List String) :=
  if !tree.isDirectory here then none
  else if name = "" ∨ name = "." then some here
  else if name = ".." then some here.dropLast
  else
    let there := here ++ [name]
    if (tree.file? there).isSome || tree.isDirectory there then some there else none

/-- The place that a path leads to. -/
def find? (tree : FileTree) (path : String) : Option (List String) :=
  if path.isEmpty then none
  else (names path).foldlM tree.step (if path.toList.head? = some '/' then [] else tree.here)

/-- A path written behind a directory; a path from the root stands for itself. -/
def join (directory path : String) : String :=
  if path.toList.head? = some '/' then path
  else if directory.isEmpty || directory.toList.getLast? = some '/' then directory ++ path
  else directory ++ "/" ++ path

/-- The text of a file, or what is wrong with it. -/
def readText (tree : FileTree) (path : String) : Except String String :=
  match tree.find? path with
  | none => .error "no such file or directory"
  | some place =>
    match tree.file? place with
    | none => .error "is a directory"
    | some bytes =>
      match String.fromUTF8? ⟨bytes.toArray⟩ with
      | some text => .ok text
      | none => .error "invalid UTF-8"

/-- The directory and the name of a file, for a path that ends in a name. Slashes and single dots at
the end do not count, and a bare name is in the directory `.`. -/
def split? (path : String) : Option (String × String) :=
  match trimEnd path.toList.reverse with
  | [] => none
  | backward =>
    let name := String.ofList (backward.takeWhile (· ≠ '/')).reverse
    if name = "." ∨ name = ".." then none
    else
      match backward.dropWhile (· ≠ '/') with
      | [] => some (".", name)
      | before =>
        match trimEnd before with
        | [] => some ("/", name)
        | directory => some (String.ofList directory.reverse, name)
where
  /-- A path given backwards without the slashes and single dots at its end. -/
  trimEnd : List Char → List Char
    | '/' :: rest => trimEnd rest
    | '.' :: '/' :: rest => trimEnd rest
    | path => path

end FileTree

/-! ## The loader -/

namespace Loader

/-- The path of a place: the names below the base directory if it lies there, otherwise its full
path. -/
def placePath (base : Option (List String)) (place : List String) : String :=
  match base with
  | some base =>
    if base.isPrefixOf place then Text.join "/" (place.drop base.length)
    else FileTree.fullPath place
  | none => FileTree.fullPath place

/-- The key of a path. A backslash counts as a slash. -/
def pathKey (path : String) : String :=
  String.ofList (path.toList.map fun c => if c = '\\' then '/' else c)

/-- The key of a place. -/
def placeKey (base : Option (List String)) (place : List String) : String :=
  pathKey (placePath base place)

/-- Reads the document under a key in a directory. -/
def readDocument (tree : FileTree) (directory key : String) : Except Error Value :=
  let path := FileTree.join directory key
  match tree.readText path with
  | .error problem => .error (.load key (s!"failed to read '{path}': " ++ problem))
  | .ok text =>
    match Value.read text.toByteArray.data.toList with
    | .ok raw => .ok raw
    | .error fault => .error (.load key ("invalid JSON: " ++ fault.message))

/-- The key of a document named in the document with the first key. It must exist. -/
def fileKey (tree : FileTree) (directory : String) (origin : Option String) (raw : String) :
    Except Error String :=
  let name := DocumentKey.normalize origin raw
  let path := FileTree.join directory name
  match tree.find? path with
  | some place => .ok (placeKey (tree.find? directory) place)
  | none => .error (.load name s!"failed to resolve '{path}': no such file or directory")

/-- The loader of the documents in a directory. -/
def ofDirectory (tree : FileTree) (directory : String) : Loader :=
  { resolveKey := fileKey tree directory
    keys := ([] :: tree.directories ++ tree.files.map Prod.fst).map
      (placeKey (tree.find? directory))
    contents := readDocument tree directory }

end Loader

/-- Loads the interface in a file, with other documents from the directory of the file. -/
def Interface.ofFile (tree : FileTree) (path : String) : Except Error Interface :=
  match FileTree.split? path with
  | none => .error (.config s!"invalid document path '{path}'")
  | some (directory, name) =>
    match (Resolver.new .none (some (.ofDirectory tree directory))).load name Store.empty with
    | .ok interface _ => .ok interface
    | .error e _ => .error e

end ServiceContract
