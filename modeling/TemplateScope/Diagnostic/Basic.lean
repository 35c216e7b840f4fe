import TemplateScope.Source.Location
import TemplateScope.Text.Placeholder

/-!
# Diagnostics

A diagnostic is a message from the catalogue with its arguments filled in, the module it was
reported against and the place it is about. Diagnostics are ordered by module and then by where
they start; what is not known comes first.
-/

namespace TemplateScope

inductive Category where
  | error
deriving DecidableEq, Repr

def Category.name : Category → String
  | .error => "error"

/-- An entry of the message catalogue; `text` may hold placeholders. -/
structure Message where
  code : Nat
  category : Category
  text : String
deriving DecidableEq, Repr

namespace Message

def shadowedInvocation : Message where
  code := 4001
  category := .error
  text := "Cannot invoke the `\x7b0\x7d` \x7b1\x7d because it was shadowed by a local variable " ++
    "(i.e. a block param) with the same name. Please rename the local variable to resolve the " ++
    "conflict."

def fill (m : Message) (args : List String) : String := Placeholder.fill m.text args

end Message

structure Diagnostic where
  moduleName : Option String
  loc : Option Location
  messageText : String
  code : Nat
  category : Category
deriving DecidableEq, Repr

namespace Diagnostic

def ofMessage (moduleName : Option String) (loc : Location) (m : Message) (args : List String) :
    Diagnostic :=
  ⟨moduleName, some loc, m.fill args, m.code, m.category⟩

def isError (d : Diagnostic) : Bool := d.category = .error

def place (d : Diagnostic) : String :=
  match d.loc with
  | some loc => if loc.isSynthetic then "" else s!"({loc.display})"
  | none => ""

/-- A place means nothing without its module, so it is only written after one. -/
def display (d : Diagnostic) : String :=
  let origin := match d.moduleName with
    | some name => s!"{name}{d.place}: "
    | none => ""
  s!"{origin}{d.category.name} TPL{d.code}: {d.messageText}"

def start? (d : Diagnostic) : Option Position := d.loc.map Location.start

/-- Modules in the order of their code points, none before any; then starts, none before any. -/
def order : Diagnostic → Diagnostic → Ordering :=
  compareLex (compareOn moduleName) (compareOn start?)

instance : Std.TransCmp order :=
  inferInstanceAs (Std.TransCmp (compareLex (compareOn moduleName) (compareOn start?)))

theorem order_eq_eq_iff {a b : Diagnostic} :
    order a b = .eq ↔ a.moduleName = b.moduleName ∧ a.start? = b.start? := by
  simp [order, compareLex, compareOn, Ordering.then_eq_eq]

end Diagnostic

end TemplateScope
