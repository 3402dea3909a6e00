import FormCompiler.Component
import FormCompiler.Tree.Basic

set_option autoImplicit false

namespace FormCompiler

theorem level_cons (depth : Int) (index : Nat) (rest : List Nat) :
    depth + 1 + rest.length = depth + (index :: rest).length := by
  simp only [List.length_cons]
  omega

namespace Component

def at? (component : Component) : List Nat → Option Component
  | [] => some component
  | index :: rest => do
    let child ← component.children[index]?
    child.at? rest

theorem at?_cons (component : Component) (index : Nat) (rest : List Nat) :
    component.at? (index :: rest) = (component.children[index]?).bind (·.at? rest) := rfl

@[elab_as_elim]
theorem induct {motive : Component → Prop}
    (step : ∀ component, (∀ child ∈ component.children, motive child) → motive component) :
    ∀ component, motive component
  | ⟨_, _, _, _, children⟩ => step _ fun child (_ : child ∈ children) => induct step child

theorem preorderAll_eq_flatMap (components : List Component) :
    preorderAll components = components.flatMap preorder := by
  induction components with
  | nil => rfl
  | cons component rest ih => simp [preorderAll, ih]

theorem preorder_eq (component : Component) :
    component.preorder = component :: component.children.flatMap preorder := by
  cases component
  simp [preorder, preorderAll_eq_flatMap]

theorem mem_preorder_self (component : Component) : component ∈ component.preorder := by
  simp [preorder_eq component]

theorem preorder_subset_of_child {component child : Component}
    (member : child ∈ component.children) : child.preorder ⊆ component.preorder := by
  intro below inside
  rw [preorder_eq component]
  exact List.mem_cons_of_mem _ (List.mem_flatMap.mpr ⟨child, member, inside⟩)

theorem mem_preorder_of_at? {component source : Component} {position : List Nat}
    (found : component.at? position = some source) : source ∈ component.preorder := by
  induction position generalizing component with
  | nil =>
    cases found
    exact mem_preorder_self _
  | cons index rest ih =>
    rw [at?_cons, Option.bind_eq_some_iff] at found
    obtain ⟨child, isChild, below⟩ := found
    exact preorder_subset_of_child (List.mem_of_getElem? isChild) (ih below)

end Component

namespace Tree

theorem at?_cons (tree : Tree) (index : Nat) (rest : List Nat) :
    tree.at? (index :: rest) = (tree.children[index]?).bind (·.at? rest) := rfl

mutual

def placed : Tree → List (List Nat × Tree)
  | .node identity backend props layout children =>
    ([], .node identity backend props layout children) :: placedAll 0 children
  | .failure identity errors props => [([], .failure identity errors props)]
termination_by structural tree => tree

def placedAll (index : Nat) : List Tree → List (List Nat × Tree)
  | [] => []
  | tree :: rest =>
    (placed tree).map (fun entry => (index :: entry.1, entry.2)) ++ placedAll (index + 1) rest
termination_by structural trees => trees

end

mutual

theorem placed_map_snd : ∀ tree : Tree, tree.placed.map Prod.snd = tree.preorder
  | .node identity backend props layout children => by
    simp [placed, preorder, placedAll_map_snd 0 children]
  | .failure identity errors props => by simp [placed, preorder]

theorem placedAll_map_snd (index : Nat) :
    ∀ trees : List Tree, (placedAll index trees).map Prod.snd = preorderAll trees
  | [] => rfl
  | tree :: rest => by
    simp [placedAll, preorderAll, ← placed_map_snd tree, placedAll_map_snd (index + 1) rest,
      Function.comp_def]

end

end Tree

end FormCompiler
