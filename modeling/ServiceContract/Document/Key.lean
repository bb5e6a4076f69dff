import ServiceContract.Text.Blank

/-!
# Document keys

A key names a document by its path, without empty segments, without `.` and with `..` only where a
relative path leaves the place it starts from. Different spellings of one path have one key.
-/

namespace ServiceContract.DocumentKey

/-- Goes one segment further from a path whose segments are given last first. An absolute path does
not leave its root. -/
def walk (absolute : Bool) (path : List (List Char)) (segment : List Char) : List (List Char) :=
  if segment = [] ∨ segment = ['.'] then path
  else if segment = ['.', '.'] then
    match path with
    | [] => if absolute then [] else [segment]
    | last :: rest =>
      if last = ['.', '.'] then if absolute then path else segment :: path else rest
  else segment :: path

/-- The directory of a key: what stands before its last slash, if it has one. -/
def directory? (key : List Char) : Option (List Char) :=
  (Text.cutAt '/' key.reverse).map fun (_, before) => before.reverse

/-- The path of a document named `raw` in another document; a name that starts at the root, or that
is not found in a directory, stands for itself. -/
def joined (origin : Option String) (raw : String) : List Char :=
  let name := Text.trimChars raw.toList
  match origin.bind fun key => directory? key.toList with
  | some directory => if name.head? = some '/' then name else directory ++ '/' :: name
  | none => name

/-- The key of a path. -/
def ofPath (path : List Char) : String :=
  let absolute := path.head? == some '/'
  let segments := (Text.splitAt '/' path).foldl (walk absolute) []
  String.ofList ((if absolute then ['/'] else []) ++ List.intercalate ['/'] segments.reverse)

/-- The key of the document that is named `raw` in the document with the key `origin`. -/
def normalize (origin : Option String) (raw : String) : String := ofPath (joined origin raw)

end ServiceContract.DocumentKey
