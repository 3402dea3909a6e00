import FormCompiler.App.Bundle
import FormCompiler.LogSetup
import FormCompiler.Registry.Builtins
import FormCompiler.Settings
import FormCompiler.Tree.Build

set_option autoImplicit false

namespace FormCompiler

structure Compiler where
  settings : Settings := {}
  registry : Registry := .standard

namespace Compiler

def create (settings : Settings) : Logged Compiler := do
  let compiler : Compiler := { settings }
  Logged.writeEntry compiler.registry.builtEntry
  return compiler

def logSetup (compiler : Compiler) : Except LogFault LogSetup :=
  LogSetup.configure compiler.settings.logLevel compiler.settings.jsonLogs

def parser (compiler : Compiler) (options : Option FormOptions := none) : FormParser where
  registry := some compiler.registry
  options := options.getD compiler.settings.formOptions
  maxDepth := compiler.settings.maxTreeDepth

def builder (compiler : Compiler) : TreeBuilder where
  registry := compiler.registry
  options := compiler.settings.buildOptions

def parseForm (compiler : Compiler) (options : Option FormOptions) (text : String) :
    Logged (Except DocumentFailure ParsedForm) :=
  let parser := compiler.parser options
  Form.parse parser.registry parser.options parser.maxDepth text

def buildForm (compiler : Compiler) (form : Form) (name : Option String) :
    Logged TreeBuilder.FormOutcome := do
  let outcome := compiler.builder.buildForm form name
  Logged.writeAll outcome.entries
  return outcome

def loadApp (compiler : Compiler) (folder : AppFolder) : Logged AppBundle :=
  AppBundle.load folder compiler.parser

def buildApp (compiler : Compiler) (bundle : AppBundle) :
    Logged (Entries String TreeBuilder.FormOutcome) :=
  bundle.forms.mapM fun (name, form) => return (name, ← compiler.buildForm form (some name))

end Compiler

end FormCompiler
