import FormCompiler.Component

set_option autoImplicit false

namespace FormCompiler

structure DataBinding where
  component : String
  property : String
  code : String
deriving Repr, DecidableEq

structure EventParameter where
  name : String
  description : Option String := none
deriving Repr, DecidableEq

structure CustomEvent where
  name : String
  description : Option String := none
  parameters : List EventParameter := []
deriving Repr, DecidableEq

structure Form where
  container : Component
  components : List Component := []
  eventBindings : Entries String String := []
  dataBindings : List DataBinding := []
  isPackage : Bool := false
  customEvents : Option (List CustomEvent) := none
  layoutMetadata : Option Bag := none
deriving Repr

/-- Which checks a form undergoes, and whether unknown component types are mere warnings. -/
structure FormOptions where
  allowCustomComponents : Bool := false
  checkDataBindings : Bool := false
  checkEventBindings : Bool := false
deriving Repr, DecidableEq

namespace Form

-- The component trees of a form, the container itself apart. The flat list counts only where it
-- differs from the container's children.
def trees (form : Form) : List Component :=
  if Component.sameAll form.components form.container.children then form.container.children
  else form.container.children ++ form.components

/-- The types of all components, each once, in the order of first use. -/
def componentTypes (form : Form) : List String :=
  let types := (Component.preorderAll form.components ++ Component.preorder form.container).map
    (·.type)
  types.foldl (fun seen type => if seen.contains type then seen else seen ++ [type]) []

end Form

end FormCompiler
