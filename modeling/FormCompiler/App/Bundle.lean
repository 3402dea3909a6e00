import FormCompiler.App.Config
import FormCompiler.App.Folder
import FormCompiler.Form.Parse
import FormCompiler.Theme

set_option autoImplicit false

namespace FormCompiler

/-- What a document in the folder of an app fails with. -/
inductive FileFailure where
  | unread (fault : ReadFault)
  | unparsed (failure : DocumentFailure)
deriving Repr, DecidableEq

namespace FileFailure

def message : FileFailure → String
  | .unread fault => fault.message
  | .unparsed failure => failure.text

def isExpected : FileFailure → Bool
  | .unread _ | .unparsed (.invalid _) => true
  | .unparsed (.fault ..) => false

def diagnostic (file : String) : FileFailure → Diagnostic
  | .unread fault => { message := fault.message, file := some file }
  | .unparsed (.invalid error) => (error.relocated file).diagnostic
  | .unparsed (.fault kind message) =>
    { message := "Unexpected " ++ kind.name ++ ": " ++ message, file := some file }

def entry (failure : FileFailure) (level : EntryLevel) (subject : String) : LogEntry :=
  if failure.isExpected then ⟨level, subject ++ "_failed", [("error", .text failure.message)]⟩
  else ⟨.error, subject ++ "_crashed",
    [("error", .text failure.message), ("exc_info", .bool true)]⟩

end FileFailure

structure FormParser where
  registry : Option Registry
  options : FormOptions
  maxDepth : Int

/-- All that could be loaded of an app. -/
structure AppBundle where
  config : AppConfig
  forms : Entries String Form := []
  theme : Option Theme := none
  errors : List Diagnostic := []
  warnings : List Diagnostic := []
deriving Repr

namespace AppBundle

def configPath : FilePath := [AppConfig.fileName]

def themePath : FilePath := ["theme", "parameters.yaml"]

def codePath : FilePath := ["client_code"]

def formName (path : FilePath) : String :=
  ".".intercalate (path.parent.drop codePath.length)

def parseFile {α : Type} (folder : AppFolder) (path : FilePath)
    (parse : String → Except DocumentFailure α) : Except FileFailure α :=
  match folder.read path with
  | .error fault => .error (.unread fault)
  | .ok text => (parse text).mapError .unparsed

def missingThemeEntry (folder : AppFolder) : LogEntry :=
  ⟨.debug, "theme_missing", [("path", .text (folder.placeOf themePath))]⟩

def addTheme (folder : AppFolder) (maxDepth : Int) (bundle : AppBundle) : Logged AppBundle :=
  if folder.isFile themePath then
    match parseFile folder themePath fun text => Theme.parse text maxDepth with
    | .ok theme => return { bundle with theme := some theme }
    | .error failure => do
      Logged.writeEntry (failure.entry .warning "theme")
      return { bundle with errors := bundle.errors ++ [failure.diagnostic themePath.text] }
  else do
    Logged.writeEntry (missingThemeEntry folder)
    return bundle

def readForm (folder : AppFolder) (parser : FormParser) (path : FilePath) :
    Logged (Except FileFailure ParsedForm) :=
  match folder.read path with
  | .error fault => return .error (.unread fault)
  | .ok text => do
    let parsed ← Form.parse parser.registry parser.options parser.maxDepth text
    return parsed.mapError .unparsed

/-- Reads and parses one form within the scope of its name. -/
def parseForm (folder : AppFolder) (parser : FormParser) (path : FilePath) :
    Logged (Except FileFailure ParsedForm) :=
  Logged.within [("form", .text (formName path))] do
    let result ← readForm folder parser path
    match result with
    | .ok _ => return result
    | .error failure =>
      Logged.writeEntry (failure.entry .warning "form")
      return result

def addForm (path : FilePath) (bundle : AppBundle) : Except FileFailure ParsedForm → AppBundle
  | .ok parsed =>
    { bundle with
      forms := Entries.set bundle.forms (formName path) parsed.form
      warnings := bundle.warnings
        ++ parsed.warnings.map fun warning => { warning with file := some path.text } }
  | .error failure => { bundle with errors := bundle.errors ++ [failure.diagnostic path.text] }

def addForms (folder : AppFolder) (parser : FormParser) :
    List FilePath → AppBundle → Logged AppBundle
  | [], bundle => return bundle
  | path :: rest, bundle => do
    addForms folder parser rest (bundle.addForm path (← parseForm folder parser path))

def formPaths (folder : AppFolder) : List FilePath :=
  folder.named codePath Form.fileName

def missingCode : Diagnostic where
  message := "client_code directory not found"
  file := some codePath.text

def addCode (folder : AppFolder) (parser : FormParser) (bundle : AppBundle) :
    Logged AppBundle :=
  if folder.isFolder codePath then addForms folder parser (formPaths folder) bundle
  else return { bundle with errors := bundle.errors ++ [missingCode] }

def loadedEntry (bundle : AppBundle) : LogEntry :=
  ⟨.info, "app_loaded", [
    ("app", .text bundle.config.name),
    ("forms", .int bundle.forms.length),
    ("errors", .int bundle.errors.length)]⟩

def loadConfig (folder : AppFolder) (maxDepth : Int) :
    Logged (Except FileFailure AppConfig) := do
  match parseFile folder configPath fun text => AppConfig.parse text maxDepth with
  | .ok (config, omissions) =>
    Logged.writeAll (omissions.map Omission.entry)
    return .ok config
  | .error failure =>
    Logged.writeEntry (failure.entry .error "app_config")
    return .error failure

/-- Loads the parts of an app one after another, none if its description fails. -/
def loadParts (folder : AppFolder) (parser : FormParser) :
    Logged (Except FileFailure AppBundle) := do
  match ← loadConfig folder parser.maxDepth with
  | .error failure => return .error failure
  | .ok config =>
    let bundle ← addTheme folder parser.maxDepth { config }
    return .ok (← addCode folder parser bundle)

def ofFailure (failure : FileFailure) : AppBundle where
  config := .fallback
  errors := [failure.diagnostic configPath.text]

def load (folder : AppFolder) (parser : FormParser) : Logged AppBundle := do
  match ← Logged.within [("app", .text folder.name)] (loadParts folder parser) with
  | .error failure => return ofFailure failure
  | .ok bundle =>
    Logged.writeEntry bundle.loadedEntry
    return bundle

end AppBundle

end FormCompiler
