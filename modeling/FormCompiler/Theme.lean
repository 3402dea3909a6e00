import FormCompiler.Document

set_option autoImplicit false

namespace FormCompiler

structure Theme where
  roles : Bag
  colorSchemes : Bag
  spacing : Bag
  breakpoints : Bag
  fonts : List Value
  styleFiles : List String
  pageFiles : List String
deriving Repr

namespace Theme

def fileName : String := "theme/parameters.yaml"

def fileNames (source : Value) : List String :=
  source.asItems.filterMap Value.asText?

def ofDocument (document : Value) : Theme :=
  let assets := (document.field "assets").asBag
  { roles := (document.field "roles").asBag
    colorSchemes := (document.field "color_schemes").asBag
    spacing := (document.field "spacing").asBag
    breakpoints := (document.field "breakpoints").asBag
    fonts := (document.field "fonts").asItems
    styleFiles := fileNames (Bag.value assets "css")
    pageFiles := fileNames (Bag.value assets "html") }

def parse (text : String) (maxDepth : Int) : Except DocumentFailure Theme :=
  (Document.load text fileName maxDepth).map ofDocument

end Theme

end FormCompiler
