import TemplateScope.Diagnostic.LocationFormat
import TemplateScope.Options.Basic
import TemplateScope.Text.Quoted

/-!
# The environment of a check

What a check knows about the template besides its tree.
-/

namespace TemplateScope

structure Environment where
  moduleName : Option String
  strictMode : Bool
  locationFormat : LocationFormat

namespace Environment

def ofOptions (o : Options) (format : LocationFormat) : Environment :=
  ⟨o.moduleName, o.strictMode, format⟩

/-- A line for logs. The formatter is a function and cannot be shown, hence the dots. -/
def describe (env : Environment) : String :=
  let moduleName := match env.moduleName with
    | some name => s!"Some({Quoted.quote name})"
    | none => "None"
  s!"PassEnvironment \x7b module_name: {moduleName}, strict_mode: {env.strictMode}, .. \x7d"

end Environment

end TemplateScope
