import TemplateScope.Options.Reader
import TemplateScope.Options.Writer
import TemplateScope.Shadowing.Invocation
import TemplateScope.Syntax.Annotation
import TemplateScope.Syntax.Builder
import TemplateScope.Validation
import TemplateScope.Walk.CallTree
import TemplateScope.Walk.Paths
import TemplateScope.Proofs.Shadowing.Lexical
import TemplateScope.Proofs.Shadowing.Balance
import TemplateScope.Proofs.Shadowing.Renaming
import TemplateScope.Proofs.Shadowing.Composition
import TemplateScope.Proofs.Shadowing.Locality
import TemplateScope.Proofs.Json.Grammar
import TemplateScope.Proofs.Json.Strings
import TemplateScope.Proofs.Json.Writing
import TemplateScope.Proofs.Json.Numbers
import TemplateScope.Proofs.Json.Values
import TemplateScope.Proofs.Json.Cuts
import TemplateScope.Proofs.Options.Acceptance
import TemplateScope.Proofs.Options.RoundTrip
import TemplateScope.Proofs.Options.Truncation
import TemplateScope.Proofs.Walk.CallTree
import TemplateScope.Proofs.Walk.Events
import TemplateScope.Proofs.Scope.Stack
import TemplateScope.Proofs.Text.ByteOrder
import TemplateScope.Proofs.Text.Substitution
import TemplateScope.Proofs.Diagnostic.Sorting
import TemplateScope.Proofs.Diagnostic.Collecting
import TemplateScope.Proofs.Diagnostic.Places
import TemplateScope.Proofs.Validation.Batches
import TemplateScope.Proofs.Validation.Reports
import TemplateScope.Proofs.Shadowing.Monotonicity
import TemplateScope.Proofs.Shadowing.Noninterference
import TemplateScope.Proofs.Shadowing.Message
import TemplateScope.Proofs.Options.FirstFault
import TemplateScope.Proofs.Syntax.Spelling
import TemplateScope.Proofs.Walk.Paths
import TemplateScope.Proofs.Syntax.ElementParts
import TemplateScope.Proofs.Syntax.Building
