import FormCompiler.Text.Quoted
import FormCompiler.Text.Utf8

set_option autoImplicit false

namespace FormCompiler

abbrev FilePath := List String

namespace FilePath

def text (path : FilePath) : String :=
  "/".intercalate path

/-- Orders paths by their first parts that differ; a folder stands before what it holds. -/
def sortsBefore : FilePath → FilePath → Bool
  | [], _ => true
  | _ :: _, [] => false
  | a :: as, b :: bs => if a = b then sortsBefore as bs else a < b

def ways : FilePath → List FilePath
  | [] => []
  | part :: rest => [part] :: (ways rest).map (part :: ·)

def parent (path : FilePath) : FilePath := path.dropLast

end FilePath

inductive Content where
  | file (bytes : List UInt8)
  | folder
deriving Repr, DecidableEq

structure AppFolder where
  place : String
  root : FilePath
  contents : List (FilePath × Content)
deriving Repr

inductive ReadFault where
  | missing (place : String)
  | isFolder (place : String)
  | undecodable (fault : Text.Utf8Fault)
deriving Repr, DecidableEq

def ReadFault.message : ReadFault → String
  | .missing place => "[Errno 2] No such file or directory: " ++ place
  | .isFolder place => "[Errno 21] Is a directory: " ++ place
  | .undecodable fault => fault.message

namespace AppFolder

def name (folder : AppFolder) : String :=
  folder.root.getLast?.getD ""

def placeOf (folder : AppFolder) (path : FilePath) : String :=
  folder.place ++ "/" ++ path.text

def quotedPlace (folder : AppFolder) (path : FilePath) : String :=
  let quote := Text.quoteFor (FilePath.text (folder.root ++ path)).toList
  String.ofList (Text.quotedBy quote (folder.placeOf path).toList)

def paths (folder : AppFolder) : List FilePath :=
  (folder.contents.flatMap fun entry => FilePath.ways entry.1).eraseDups

def content? (folder : AppFolder) (path : FilePath) : Option Content :=
  match folder.contents.find? fun entry => entry.1 == path with
  | some (_, content) => some content
  | none => if folder.paths.contains path then some .folder else none

def isFile (folder : AppFolder) (path : FilePath) : Bool :=
  match folder.content? path with
  | some (.file _) => true
  | _ => false

def isFolder (folder : AppFolder) (path : FilePath) : Bool :=
  folder.content? path == some .folder

def read (folder : AppFolder) (path : FilePath) : Except ReadFault String :=
  match folder.content? path with
  | none => .error (.missing (folder.quotedPlace path))
  | some .folder => .error (.isFolder (folder.quotedPlace path))
  | some (.file bytes) => (Text.ofFileBytes bytes).mapError .undecodable

def named (folder : AppFolder) (top : FilePath) (name : String) : List FilePath :=
  (folder.paths.filter fun path =>
    top.isPrefixOf path && top.length < path.length && path.getLast? == some name).mergeSort
      FilePath.sortsBefore

end AppFolder

end FormCompiler
