import Colloquy.Store.FlatFile
import Colloquy.ShareLog
import Colloquy.Template.Node

/-!
# Content Policies and Evaluation Errors

What an element has to look like before its handler runs, and what can go wrong when it does. The
first two kinds of error are the template's fault and the last two the installation's; who reports
an error wants to know which, because only the author of a template can mend a template.

## Main definitions

* `Violation`: How an element breaks the rules of its handler.
* `EvalError`: Why an evaluation failed.
* `EvalError.isTemplateError`: Whether the template is to blame.
* `ContentPolicy`: What content a handler wants.
* `ContentPolicy.check`: Whether an element has that content.
-/

namespace Colloquy

/-- How an element breaks the rules of its handler. -/
inductive Violation where
  | missingContent
  | unexpectedContent
  | missingName
  deriving DecidableEq, Repr

/-- The words for a violation. -/
def Violation.reason : Violation → String
  | .missingContent => "element must have content"
  | .unexpectedContent => "element cannot contain content"
  | .missingName => "requires a non-empty name attribute"

/-- Why an evaluation failed. -/
inductive EvalError where
  | invalidContent (tag : String) (violation : Violation)
  | depthExceeded (tag : String) (limit : Nat)
  | store (error : StoreError)
  | shareLog (error : ShareLogError)
  deriving DecidableEq, Repr

namespace EvalError

/-- What is said about an evaluation that failed. -/
def message : EvalError → String
  | .invalidContent tag violation => "invalid content in <" ++ tag ++ ">: " ++ violation.reason
  | .depthExceeded tag limit =>
    "maximum evaluation depth " ++ toString limit ++ " exceeded at <" ++ tag ++ ">"
  | .store error => error.message
  | .shareLog error => error.message

/-- Whether the template is to blame rather than the installation. -/
def isTemplateError : EvalError → Bool
  | .invalidContent .. => true
  | .depthExceeded .. => true
  | .store _ => false
  | .shareLog _ => false

end EvalError

/-- What content a handler wants. -/
inductive ContentPolicy where
  | required
  | forbidden
  | either
  deriving DecidableEq, Repr

/-- Nothing, if an element has the content that is wanted; otherwise its violation. An empty
    container has no content. -/
def ContentPolicy.check (policy : ContentPolicy) (element : Element) : Except EvalError Unit :=
  match policy with
  | .required =>
    if element.hasChildren then .ok ()
    else .error (.invalidContent element.tag.name .missingContent)
  | .forbidden =>
    if element.hasChildren then .error (.invalidContent element.tag.name .unexpectedContent)
    else .ok ()
  | .either => .ok ()

end Colloquy
