import TemplateScope.Diagnostic.Basic
import TemplateScope.Diagnostic.LocationFormat

/-!
# Conflicts

A conflict is an invocation whose name is also a block param in scope. It knows enough to be shown
on its own and to become a diagnostic of the catalogue.
-/

namespace TemplateScope

/-- What an invocation calls. -/
inductive Role where
  | helper
  | modifier
deriving DecidableEq, Repr

namespace Role

def name : Role → String
  | .helper => "helper"
  | .modifier => "modifier"

def all : List Role := [.helper, .modifier]

end Role

structure Conflict where
  name : String
  role : Role
  loc : Location
  moduleName : Option String
  /-- The place as the message shows it. -/
  location : String
deriving DecidableEq, Repr

namespace Conflict

def messageText (c : Conflict) : String :=
  Message.shadowedInvocation.fill [c.name, c.role.name]

/-- The message, and after it the place if there is one to show. -/
def display (c : Conflict) : String :=
  if c.location.isEmpty then c.messageText else s!"{c.messageText} {c.location}"

/-- The code under which tools list conflicts of this kind. -/
def code : String := "tmplc::shadowed_invocation"

def help (c : Conflict) : String :=
  s!"rename the block param `{c.name}` so it no longer hides the {c.role.name} of the same name"

def toDiagnostic (c : Conflict) : Diagnostic :=
  Diagnostic.ofMessage c.moduleName c.loc Message.shadowedInvocation [c.name, c.role.name]

end Conflict

end TemplateScope
