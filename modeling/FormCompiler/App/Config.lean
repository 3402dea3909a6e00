import FormCompiler.Document
import FormCompiler.Form.OfDocument

set_option autoImplicit false

namespace FormCompiler

structure Dependency where
  appId : String
  version : Value
  extra : Bag
deriving Repr

structure RuntimeOptions where
  version : String := "1.0"
  clientVersion : Option String := none
  serverVersion : Option String := none
deriving Repr, DecidableEq

structure AppMetadata where
  title : String
  description : Option String := none
  logo : Option String := none
deriving Repr, DecidableEq

structure AppConfig where
  packageName : String := ""
  name : String := ""
  dependencies : List Dependency := []
  services : List Value := []
  allowEmbedding : Bool := false
  runtimeOptions : RuntimeOptions := {}
  metadata : AppMetadata
  startupForm : Option String := none
  startup : Value := .null
  nativeDeps : List Value := []
  dbSchema : Value := .null
deriving Repr

namespace AppConfig

def fileName : String := "anvil.yaml"

def defaultTitle : String := "Anvil App"

def dependencyOf? : Value → Option Dependency
  | .map entries =>
    let fields := (Value.map entries).asBag
    some
      { appId := (Bag.value fields "app_id").asText ""
        version := Bag.value fields "version"
        extra := fields.filter fun entry => entry.1 != "app_id" && entry.1 != "version" }
  | _ => none

def omissions (document : Value) : List Omission :=
  ((document.field "dependencies").asItems.filter fun item => !item.isMapping).map .dependency

/-- Newer apps write one mapping in place of the list. -/
def nativeDepsOf (source : Value) : List Value :=
  if source.isMapping then [.ofBag source.asBag] else source.asItems

def firstNonEmpty (texts : List String) (default : String) : String :=
  (texts.find? fun text => !text.isEmpty).getD default

def ofDocument (document : Value) : AppConfig :=
  let name := (document.field "name").asText ""
  let runtime := (document.field "runtime_options").asBag
  let metadata := (document.field "metadata").asBag
  { packageName := (document.field "package_name").asText ""
    name
    dependencies := (document.field "dependencies").asItems.filterMap dependencyOf?
    services := (document.field "services").asItems
    allowEmbedding := (document.field "allow_embedding").truthy
    runtimeOptions :=
      { version := (Bag.value runtime "version").asText "1.0"
        clientVersion := (Bag.value runtime "client_version").asText?
        serverVersion := (Bag.value runtime "server_version").asText? }
    metadata :=
      { title := firstNonEmpty [(Bag.value metadata "title").asText "", name] defaultTitle
        description := (Bag.value metadata "description").asText?
        logo := (Bag.value metadata "logo").asText? }
    startupForm := (document.field "startup_form").asText?
    startup := document.field "startup"
    nativeDeps := nativeDepsOf (document.field "native_deps")
    dbSchema := document.field "db_schema" }

/-- The description in a text, and what it leaves out. -/
def parse (text : String) (maxDepth : Int) : Except DocumentFailure (AppConfig × List Omission) :=
  (Document.load text fileName maxDepth).map fun document =>
    (ofDocument document, omissions document)

def dependencyIds (config : AppConfig) : List String :=
  config.dependencies.map (·.appId)

def fallback : AppConfig where
  packageName := "Unknown"
  name := "Unknown App"
  metadata := { title := "Unknown App" }

end AppConfig

end FormCompiler
