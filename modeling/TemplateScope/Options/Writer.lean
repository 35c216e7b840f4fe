import TemplateScope.Json.Text
import TemplateScope.Options.Basic

/-!
# Writing options

Options are written as a compact JSON object with both members, in their fixed order.
-/

namespace TemplateScope.Options

def writeModuleName : Option String → List Char
  | none => "null".toList
  | some name => Json.writeText name.toList

def writeChars (o : Options) : List Char :=
  "\x7b\"moduleName\":".toList ++ writeModuleName o.moduleName ++
    ",\"strictMode\":".toList ++ (if o.strictMode then "true" else "false").toList ++
    "\x7d".toList

def write (o : Options) : String := String.ofList o.writeChars

end TemplateScope.Options
