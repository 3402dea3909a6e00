import FormCompiler.Value.Access

set_option autoImplicit false

namespace FormCompiler

def Value.size? : Value → Option String
  | .text chars => some chars
  | value => value.numberText?.map (· ++ "px")

def Value.spacing? : Value → Option String
  | .list items | .tuple items =>
    some (" ".intercalate (items.map fun item =>
      match item.size? with
      | some size => if size.isEmpty then "auto" else size
      | none => "auto"))
  | value => value.size?

namespace Layout

/-- What becomes of the value under a source key. -/
inductive Treatment where
  | size
  | spacing
  | copy
  | span

/-- Source key, directive and treatment, in the order in which directives are written. -/
def directives : List (String × String × Treatment) := [
  ("width", "width", .size),
  ("height", "height", .size),
  ("margin", "margin", .spacing),
  ("padding", "padding", .spacing),
  ("align", "text_align", .copy),
  ("row", "grid_row", .copy),
  ("col", "grid_column", .copy),
  ("col_span", "grid_column_end", .span),
  ("row_span", "grid_row_end", .span),
  ("flex_grow", "flex_grow", .copy),
  ("flex_shrink", "flex_shrink", .copy)]

def Treatment.apply : Treatment → Value → Option Value
  | .size, value => value.size?.map .text
  | .spacing, value => value.spacing?.map .text
  | .copy, value => if value.isNull then none else some value
  | .span, value => if value.isNull then none else some (.text ("span " ++ value.render))

def copiedFrom? (directive : String) : Option String :=
  (directives.find? fun (_, name, treatment) =>
    name == directive && treatment matches .copy).map Prod.fst

def mapped (layout : Bag) : Bag :=
  directives.filterMap fun (source, directive, treatment) =>
    (treatment.apply (Bag.value layout source)).map fun value => (directive, value)

end Layout

end FormCompiler
