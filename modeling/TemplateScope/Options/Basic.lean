/-!
# Compile options

What may be chosen for the compilation of one template.
-/

namespace TemplateScope

/-- The module serves to qualify diagnostics and for nothing else. In strict mode a helper cannot
be invoked by its bare name at all, so nothing can shadow it. -/
structure Options where
  moduleName : Option String := none
  strictMode : Bool := false
deriving DecidableEq, Repr, Inhabited

namespace Options

def default : Options := {}

def isDefault (o : Options) : Bool := o = default

end Options

end TemplateScope
