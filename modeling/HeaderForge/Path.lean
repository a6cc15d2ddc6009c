import HeaderForge.Text.Words

/-!
# Paths

Paths are texts of names between slashes. Empty names and dots between slashes mean nothing, two dots
lead to the folder above, and a slash at the start makes a path absolute.
-/

namespace HeaderForge.Path

/-- A step along a path. -/
inductive Component where
  /-- The start of an absolute path. -/
  | root
  /-- The dot at the start of a relative path. -/
  | current
  /-- The folder above. -/
  | parent
  /-- A name in the folder reached so far. -/
  | normal (name : String)
deriving DecidableEq, Repr

/-- The component a name stands for, unless it means nothing. -/
def Component.ofName? (name : String) : Option Component :=
  if name = "" ∨ name = "." then none
  else if name = ".." then some .parent
  else some (.normal name)

/-- The names between the slashes of a path. -/
def names (path : String) : List String := Text.split '/' path

/-- Whether a path is absolute. -/
def isAbsolute (path : String) : Bool := Text.startsWith path "/"

/-- The components of a path. -/
def components (path : String) : List Component :=
  match names path with
  | "" :: rest =>
    (if isAbsolute path then [.root] else []) ++ rest.filterMap Component.ofName?
  | "." :: rest => .current :: rest.filterMap Component.ofName?
  | names => names.filterMap Component.ofName?

/-- Whether a name in the middle of a path means nothing. -/
def isIdle (name : String) : Bool := name == "" || name == "."

/-- The names up to the last that means something. -/
def trimIdle (names : List String) : List String := (names.reverse.dropWhile isIdle).reverse

/-- The file name of a path, and the names before it. A path that ends in two dots has none. -/
def fileName? (path : String) : Option (List String × String) :=
  let significant := trimIdle (names path)
  match significant.getLast? with
  | none => none
  | some name => if name = ".." then none else some (significant.dropLast, name)

/-- A file name without its extension: the part before the last dot, unless that is empty. -/
def stemOf (fileName : String) : String :=
  match (Text.split '.' fileName).reverse with
  | _ :: before =>
    let stem := ".".intercalate before.reverse
    if stem = "" then fileName else stem
  | [] => fileName

/-- The file name of a path without its extension. -/
def stem? (path : String) : Option String := (fileName? path).map fun (_, name) => stemOf name

/-- Whether a path ends in two dots and an extension. Without the extension it would end in the two
dots, which are no file name. -/
def endsInDots (path name : String) : Bool := stemOf name == "." && Text.endsWith path name

/-- The path with another extension. The old one is taken away before the new one is set, and a path
that then has no file name gets none. -/
def withExtension (extension path : String) : String :=
  match fileName? path with
  | none => path
  | some (before, name) =>
    let last := if endsInDots path name then ".." else stemOf name ++ "." ++ extension
    "/".intercalate (before ++ [last])

/-- A path followed from a folder: an absolute path as it is, another after the folder and a slash. -/
def join (folder path : String) : String :=
  if isAbsolute path then path
  else if folder = "" ∨ Text.endsWith folder "/" then folder ++ path
  else folder ++ "/" ++ path

/-- The path of the folder that holds the last component, if a path has a component to leave out. -/
def parent? (path : String) : Option String :=
  match (components path).getLast? with
  | none => none
  | some .root => none
  | some .current => some ""
  | some _ =>
    match (trimIdle (names path)).dropLast with
    | [] => some ""
    | first :: rest =>
      match trimIdle rest with
      | [] => some (if first = "" then "/" else first)
      | rest => some ("/".intercalate (first :: rest))

/-- Whether a path stays inside the folder it is followed from, as far as its text tells: it is neither
absolute nor leads upwards anywhere. -/
def staysInside (path : String) : Bool :=
  (components path).all fun component =>
    match component with
    | .root => false
    | .parent => false
    | _ => true

end HeaderForge.Path
