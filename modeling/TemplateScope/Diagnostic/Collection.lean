import TemplateScope.Diagnostic.Basic

/-!
# Collections of diagnostics

Diagnostics in the order in which they were added, until they are sorted. Sorting moves only what
is out of order: diagnostics of one module and one start stay as they were.
-/

namespace TemplateScope

structure DiagnosticCollection where
  toList : List Diagnostic
deriving DecidableEq, Repr

namespace DiagnosticCollection

def empty : DiagnosticCollection := ⟨[]⟩

def add (c : DiagnosticCollection) (d : Diagnostic) : DiagnosticCollection := ⟨c.toList ++ [d]⟩

def size (c : DiagnosticCollection) : Nat := c.toList.length

def isEmpty (c : DiagnosticCollection) : Bool := c.toList.isEmpty

def hasErrors (c : DiagnosticCollection) : Bool := c.toList.any Diagnostic.isError

def errorCount (c : DiagnosticCollection) : Nat := c.toList.countP Diagnostic.isError

def sort (c : DiagnosticCollection) : DiagnosticCollection :=
  ⟨c.toList.mergeSort fun a b => (Diagnostic.order a b).isLE⟩

end DiagnosticCollection

end TemplateScope
