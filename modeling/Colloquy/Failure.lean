import Colloquy.Evaluation.Registry
import Colloquy.Logging.Setup
import Colloquy.Settings.Sources
import Colloquy.Template.Reader

/-!
# Failures

Everything that can go wrong, from one end of the program to the other, as whoever runs it gets to
see it. What is wrong with the installation is said to be an error of configuration; what is wrong
with a template, an evaluation or a store speaks for itself.

## Main definitions

* `ConfigurationFault`: What is wrong with an installation or with what it is asked.
* `Failure`: Why the program could not do what it was asked.
* `Failure.message`: What is said about it.
-/

namespace Colloquy

/-- What is wrong with an installation, or with what it is asked. -/
inductive ConfigurationFault where
  | settings (fault : SettingsFault)
  | load (error : LoadError)
  | log (fault : LogFault)
  | registry (error : RegistryError)
  | emptyAgent
  | unknownAgent (agent : String)
  | noTemplate
  | unreadableTemplate (path : String) (fault : Disk.Fault)
  | listForm (word : String)
  deriving DecidableEq, Repr

/-- The words for what is wrong. -/
def ConfigurationFault.message : ConfigurationFault → String
  | .settings fault => fault.message
  | .load error => error.message
  | .log fault => fault.message
  | .registry error => error.message
  | .emptyAgent => "Agent configured with an empty id"
  | .unknownAgent agent => "Agent not found: " ++ agent
  | .noTemplate => "Provide template markup or --file"
  | .unreadableTemplate path fault =>
    "Failed to read template file " ++ path ++ ": " ++ fault.message
  | .listForm word => "Invalid format: " ++ word ++ " (must be 'text' or 'json')"

/-- Why the program could not do what it was asked. -/
inductive Failure where
  | configuration (fault : ConfigurationFault)
  | template (error : ParseError)
  | evaluation (error : EvalError)
  | store (error : StoreError)
  deriving DecidableEq, Repr

/-- What is said about a failure. -/
def Failure.message : Failure → String
  | .configuration fault => "Configuration error: " ++ fault.message
  | .template error => error.message
  | .evaluation error => error.message
  | .store error => error.message

end Colloquy
