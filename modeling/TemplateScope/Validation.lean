import TemplateScope.Diagnostic.Collection
import TemplateScope.Shadowing.Check

/-!
# Validating templates

One template or a batch of them, each with its own options, and the outcome either as conflicts or
as diagnostics. The units of a batch do not influence each other.
-/

namespace TemplateScope

structure TemplateUnit where
  options : Options
  template : Template Location

variable (format : LocationFormat)

/-- An error means that the template must not be compiled. -/
def validate (u : TemplateUnit) : Except Conflict Unit :=
  Shadowing.check (.ofOptions u.options format) u.template

def conflict? (u : TemplateUnit) : Option Conflict :=
  match validate format u with
  | .ok () => none
  | .error c => some c

def diagnose (u : TemplateUnit) : DiagnosticCollection :=
  match conflict? format u with
  | none => .empty
  | some c => DiagnosticCollection.empty.add c.toDiagnostic

def validateAll (units : List TemplateUnit) : List (Except Conflict Unit) :=
  units.map (validate format)

/-- The diagnostics of all units together, sorted by module and position. -/
def diagnoseAll (units : List TemplateUnit) : DiagnosticCollection :=
  (⟨(units.filterMap (conflict? format)).map Conflict.toDiagnostic⟩ : DiagnosticCollection).sort

end TemplateScope
