set_option autoImplicit false

namespace FormCompiler

inductive TypeCategory where
  | builtin
  | dependency
  | package
deriving Repr, DecidableEq

def TypeCategory.name : TypeCategory → String
  | .builtin => "builtin"
  | .dependency => "dependency"
  | .package => "package"

inductive TypeName where
  | builtin (name : String)
  | dependency (id name : String)
  | package (scope name : String)
deriving Repr, DecidableEq

namespace TypeName

def category : TypeName → TypeCategory
  | .builtin _ => .builtin
  | .dependency .. => .dependency
  | .package .. => .package

def name : TypeName → String
  | .builtin n => n
  | .dependency _ n => n
  | .package _ n => n

def text : TypeName → String
  | .builtin n => n
  | .dependency id n => "form:" ++ id ++ ":" ++ n
  | .package scope n => scope ++ "." ++ n

def splitFirst (mark : Char) : List Char → Option (List Char × List Char)
  | [] => none
  | c :: rest =>
    if c = mark then some ([], rest)
    else (splitFirst mark rest).map fun parts => (c :: parts.1, parts.2)

/-- The two segments after `form:`, if there are exactly two. -/
def dependencyParts? (chars : List Char) : Option (List Char × List Char) :=
  match chars with
  | 'f' :: 'o' :: 'r' :: 'm' :: ':' :: rest =>
    match splitFirst ':' rest with
    | some (id, name) => if name.contains ':' then none else some (id, name)
    | none => none
  | _ => none

def parse (written : String) : TypeName :=
  match dependencyParts? written.toList with
  | some (id, name) => .dependency (String.ofList id) (String.ofList name)
  | none =>
    match splitFirst '.' written.toList with
    | some (scope, name) => .package (String.ofList scope) (String.ofList name)
    | none => .builtin written

end TypeName

end FormCompiler
