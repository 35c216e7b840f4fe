import TemplateScope.Source.Location

/-!
# Rendering places in messages

How a message names the place it is about is up to a formatter, which knows the module, if there
is one, and the location.
-/

namespace TemplateScope

abbrev LocationFormat := Option String → Location → String

namespace LocationFormat

/-- A module with an empty name is as good as none. -/
def knownModule? (moduleName : Option String) : Option String := moduleName.filter (· ≠ "")

def knownStart? (loc : Location) : Option Position :=
  if loc.isSynthetic then none else some loc.start

/-- Module and position in parentheses. What is not known is left out, and where nothing is known
nothing is written. -/
def modulePosition : LocationFormat := fun moduleName loc =>
  match knownModule? moduleName, knownStart? loc with
  | none, none => ""
  | some name, none => s!"('{name}')"
  | none, some start => s!"({start.display})"
  | some name, some start => s!"('{name}' @ {start.display})"

end LocationFormat

end TemplateScope
