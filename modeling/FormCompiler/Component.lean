import FormCompiler.Value.Equality

set_option autoImplicit false

namespace FormCompiler

structure Component where
  type : String := ""
  name : Value := .text ""
  properties : Bag := []
  layout : Bag := []
  children : List Component := []
deriving Repr, Inhabited

def Bag.same (a b : Bag) : Bool :=
  (Value.ofBag a).same (Value.ofBag b)

namespace Component

mutual

def same : Component → Component → Bool
  | ⟨type, name, properties, layout, children⟩, b =>
    type == b.type && name.same b.name && Bag.same properties b.properties
      && Bag.same layout b.layout && sameAll children b.children
termination_by structural a => a

def sameAll : List Component → List Component → Bool
  | [], [] => true
  | a :: as, b :: bs => same a b && sameAll as bs
  | _, _ => false
termination_by structural a => a

end

section Compare

variable (knots : Nat → Nat → Option Bool)

def compareBags? (a b : Bag) : Option Bool :=
  (Value.ofBag a).compare? knots (Value.ofBag b)

mutual

-- The comparison as it goes on, field after field.

def compare? : Component → Component → Option Bool
  | ⟨type, name, properties, layout, children⟩, b =>
    some (type == b.type) <&&> name.compare? knots b.name
      <&&> compareBags? knots properties b.properties <&&> compareBags? knots layout b.layout
      <&&> some (children.length == b.children.length) <&&> compareAll? children b.children
termination_by structural a => a

def compareAll? : List Component → List Component → Option Bool
  | [], [] => some true
  | a :: as, b :: bs => compare? a b <&&> compareAll? as bs
  | _, _ => some false
termination_by structural a => a

end

end Compare

mutual

def preorder : Component → List Component
  | ⟨type, name, properties, layout, children⟩ =>
    ⟨type, name, properties, layout, children⟩ :: preorderAll children
termination_by structural a => a

def preorderAll : List Component → List Component
  | [] => []
  | component :: rest => preorder component ++ preorderAll rest
termination_by structural a => a

end

theorem preorderAll_cons (first : Component) (rest : List Component) :
    preorderAll (first :: rest) = first :: (preorderAll first.children ++ preorderAll rest) := by
  cases first
  simp [preorderAll, preorder]

theorem preorderAll_append (before after : List Component) :
    preorderAll (before ++ after) = preorderAll before ++ preorderAll after := by
  induction before with
  | nil => rfl
  | cons component rest ih => simp [preorderAll, ih]

theorem preorderAll_reverse_perm (components : List Component) :
    (preorderAll components.reverse).Perm (preorderAll components) := by
  induction components with
  | nil => exact .nil
  | cons component rest ih =>
    rw [List.reverse_cons, preorderAll_append]
    simp only [preorderAll, List.append_nil]
    exact (ih.append_right _).trans List.perm_append_comm

-- A stack of components that are still to be visited, the next one first. Visiting one puts its
-- children on the stack, so that the last of them comes next.
def visited : List Component → List Component
  | [] => []
  | component :: rest => component :: visited (component.children.reverse ++ rest)
termination_by stack => (preorderAll stack).length
decreasing_by
  have pushed := (preorderAll_reverse_perm component.children).length_eq
  simp only [List.unattach_reverse, List.unattach_attach, preorderAll_append, preorderAll_cons,
    List.length_append, List.length_cons]
  omega

def textName? (component : Component) : Option String :=
  match component.name with
  | .text name => some name
  | _ => none

def properName? (component : Component) : Option String :=
  match component.name with
  | .text name => if name.isEmpty then none else some name
  | _ => none

end Component

end FormCompiler
