import Mathlib.Logic.Relation
import TemplateScope.Proofs.Syntax.Surroundings

/-!
# Edits away from names

An edit changes one thing somewhere in a tree, but no block param, no name of a checked callee and
no place of a checked call. Checked are the callees of sub-expressions, of modifiers and of mustaches
that have arguments. Those of block statements and of other mustaches are not, so any path or literal
may come in for them, as it may for an argument.
-/

namespace TemplateScope

variable {ℓ : Type}

/-- One entry of a list is edited, or a silent one comes in. -/
inductive EditIn {α : Type} (edit : α → α → Prop) (silent : α → Prop) :
    List α → List α → Prop where
  | entry {x x' : α} (rest : List α) : edit x x' → EditIn edit silent (x :: rest) (x' :: rest)
  | insert {x : α} (rest : List α) : silent x → EditIn edit silent rest (x :: rest)
  | later (x : α) {rest rest' : List α} : EditIn edit silent rest rest' →
      EditIn edit silent (x :: rest) (x :: rest')

/-! ## Expressions and calls -/

/-- The path goes on in another way, or its name is read as that of an argument. -/
inductive Path.Edit : Path → Path → Prop where
  | tail (head : PathHead) (tail tail' : List String) : Path.Edit ⟨head, tail⟩ ⟨head, tail'⟩
  | sigil (name : String) (tail : List String) :
      Path.Edit ⟨.var name, tail⟩ ⟨.argument name, tail⟩

/-- What may be exchanged for any other of its kind: literals and paths, and where the callee is
checked only those that have no name. -/
inductive Expression.Exchangeable (checked : Bool) : Expression ℓ → Prop where
  | literal (value : Literal) (loc : ℓ) : Expression.Exchangeable checked (.literal value loc)
  | path {p : Path} (loc : ℓ) : (checked = true → p.head = .this) →
      Expression.Exchangeable checked (.path p loc)

mutual

inductive Expression.Edit : Bool → Expression ℓ → Expression ℓ → Prop where
  | exchange {checked : Bool} {e e' : Expression ℓ} : e.Exchangeable checked →
      e'.Exchangeable checked → Expression.Edit checked e e'
  | path {checked : Bool} {p p' : Path} (loc : ℓ) : p.Edit p' →
      Expression.Edit checked (.path p loc) (.path p' loc)
  /-- Literals are moved by exchanging them. -/
  | place {checked : Bool} (p : Path) (loc loc' : ℓ) :
      Expression.Edit checked (.path p loc) (.path p loc')
  | call {checked : Bool} {c c' : Call ℓ} (loc : ℓ) : Call.Edit true c c' →
      Expression.Edit checked (.call c loc) (.call c' loc)

/-- An edit of a call whose callee is checked, or is not. No argument comes or goes. -/
inductive Call.Edit : Bool → Call ℓ → Call ℓ → Prop where
  | callee {checked : Bool} {e e' : Expression ℓ} (params : List (Expression ℓ)) (hash : Hash ℓ) :
      Expression.Edit checked e e' → Call.Edit checked ⟨e, params, hash⟩ ⟨e', params, hash⟩
  | params {checked : Bool} (callee : Expression ℓ) {params params' : List (Expression ℓ)}
      (hash : Hash ℓ) : Expression.EditOne params params' →
      Call.Edit checked ⟨callee, params, hash⟩ ⟨callee, params', hash⟩
  | pairs {checked : Bool} (callee : Expression ℓ) (params : List (Expression ℓ))
      {pairs pairs' : List (HashPair ℓ)} (loc : ℓ) : HashPair.EditOne pairs pairs' →
      Call.Edit checked ⟨callee, params, ⟨pairs, loc⟩⟩ ⟨callee, params, ⟨pairs', loc⟩⟩
  | hashPlace {checked : Bool} (callee : Expression ℓ) (params : List (Expression ℓ))
      (pairs : List (HashPair ℓ)) (loc loc' : ℓ) :
      Call.Edit checked ⟨callee, params, ⟨pairs, loc⟩⟩ ⟨callee, params, ⟨pairs, loc'⟩⟩

inductive Expression.EditOne : List (Expression ℓ) → List (Expression ℓ) → Prop where
  | entry {e e' : Expression ℓ} (rest : List (Expression ℓ)) : Expression.Edit false e e' →
      Expression.EditOne (e :: rest) (e' :: rest)
  | later (e : Expression ℓ) {rest rest' : List (Expression ℓ)} :
      Expression.EditOne rest rest' → Expression.EditOne (e :: rest) (e :: rest')

inductive HashPair.EditOne : List (HashPair ℓ) → List (HashPair ℓ) → Prop where
  | key (p : HashPair ℓ) (key : String) (rest : List (HashPair ℓ)) :
      HashPair.EditOne (p :: rest) ({ p with key := key } :: rest)
  | value (key : String) {e e' : Expression ℓ} (loc : ℓ) (rest : List (HashPair ℓ)) :
      Expression.Edit false e e' →
      HashPair.EditOne (⟨key, e, loc⟩ :: rest) (⟨key, e', loc⟩ :: rest)
  | place (p : HashPair ℓ) (loc : ℓ) (rest : List (HashPair ℓ)) :
      HashPair.EditOne (p :: rest) ({ p with loc := loc } :: rest)
  | later (p : HashPair ℓ) {rest rest' : List (HashPair ℓ)} : HashPair.EditOne rest rest' →
      HashPair.EditOne (p :: rest) (p :: rest')

end

/-- A mustache may only be moved while it passes nothing on. -/
inductive Mustache.Edit : Mustache ℓ → Mustache ℓ → Prop where
  | call {c c' : Call ℓ} (trusting : Bool) (loc : ℓ) : Call.Edit c.hasArguments c c' →
      Mustache.Edit ⟨c, trusting, loc⟩ ⟨c', trusting, loc⟩
  | trusting (c : Call ℓ) (trusting trusting' : Bool) (loc : ℓ) :
      Mustache.Edit ⟨c, trusting, loc⟩ ⟨c, trusting', loc⟩
  | place {c : Call ℓ} (trusting : Bool) (loc loc' : ℓ) : c.hasArguments = false →
      Mustache.Edit ⟨c, trusting, loc⟩ ⟨c, trusting, loc'⟩

inductive Modifier.Edit : Modifier ℓ → Modifier ℓ → Prop where
  | call {c c' : Call ℓ} (loc : ℓ) : Call.Edit true c c' → Modifier.Edit ⟨c, loc⟩ ⟨c', loc⟩

/-! ## Attributes -/

inductive ConcatPart.Edit : ConcatPart ℓ → ConcatPart ℓ → Prop where
  | text (t t' : TextRun ℓ) : ConcatPart.Edit (.text t) (.text t')
  | mustache {m m' : Mustache ℓ} : m.Edit m' → ConcatPart.Edit (.mustache m) (.mustache m')

inductive ConcatPart.Silent : ConcatPart ℓ → Prop where
  | text (t : TextRun ℓ) : ConcatPart.Silent (.text t)

inductive AttributeValue.Edit : AttributeValue ℓ → AttributeValue ℓ → Prop where
  | text (t t' : TextRun ℓ) : AttributeValue.Edit (.text t) (.text t')
  | mustache {m m' : Mustache ℓ} : m.Edit m' → AttributeValue.Edit (.mustache m) (.mustache m')
  | parts {parts parts' : List (ConcatPart ℓ)} (loc : ℓ) :
      EditIn ConcatPart.Edit ConcatPart.Silent parts parts' →
      AttributeValue.Edit (.concat parts loc) (.concat parts' loc)
  | place (parts : List (ConcatPart ℓ)) (loc loc' : ℓ) :
      AttributeValue.Edit (.concat parts loc) (.concat parts loc')

inductive Attribute.Edit : Attribute ℓ → Attribute ℓ → Prop where
  | name (a : Attribute ℓ) (name : String) : Attribute.Edit a { a with name := name }
  | value (a : Attribute ℓ) {value : AttributeValue ℓ} : a.value.Edit value →
      Attribute.Edit a { a with value := value }
  | place (a : Attribute ℓ) (loc : ℓ) : Attribute.Edit a { a with loc := loc }

inductive Attribute.Silent : Attribute ℓ → Prop where
  | text (name : String) (t : TextRun ℓ) (loc : ℓ) : Attribute.Silent ⟨name, .text t, loc⟩

/-! ## Statements -/

/-- An edit of a statement outside the bodies that stand in it. -/
inductive Statement.Edit : Statement ℓ → Statement ℓ → Prop where
  | mustache {m m' : Mustache ℓ} : m.Edit m' → Statement.Edit (.mustache m) (.mustache m')
  | text (t t' : TextRun ℓ) : Statement.Edit (.text t) (.text t')
  | mustacheComment (c c' : Comment ℓ) :
      Statement.Edit (.mustacheComment c) (.mustacheComment c')
  | comment (c c' : Comment ℓ) : Statement.Edit (.comment c) (.comment c')
  | blockCall (b : BlockStatement ℓ) {call : Call ℓ} : Call.Edit false b.call call →
      Statement.Edit (.block b) (.block { b with call := call })
  | blockPlace (b : BlockStatement ℓ) (loc : ℓ) :
      Statement.Edit (.block b) (.block { b with loc := loc })
  | programPlace (b : BlockStatement ℓ) (loc : ℓ) :
      Statement.Edit (.block b) (.block { b with program := { b.program with loc := loc } })
  | inversePlace (call : Call ℓ) (program inverse : Block ℓ) (place loc : ℓ) :
      Statement.Edit (.block ⟨call, program, some inverse, place⟩)
        (.block ⟨call, program, some { inverse with loc := loc }, place⟩)
  | tag (e : Element ℓ) (tag : String) :
      Statement.Edit (.element e) (.element { e with tag := tag })
  | attributes (e : Element ℓ) {attributes : List (Attribute ℓ)} :
      EditIn Attribute.Edit Attribute.Silent e.attributes attributes →
      Statement.Edit (.element e) (.element { e with attributes := attributes })
  | modifiers (e : Element ℓ) {modifiers : List (Modifier ℓ)} :
      EditIn Modifier.Edit (fun _ => False) e.modifiers modifiers →
      Statement.Edit (.element e) (.element { e with modifiers := modifiers })
  | comments (e : Element ℓ) {comments : List (Comment ℓ)} :
      EditIn (fun _ _ => True) (fun _ => True) e.comments comments →
      Statement.Edit (.element e) (.element { e with comments := comments })
  | selfClosing (e : Element ℓ) (selfClosing : Bool) :
      Statement.Edit (.element e) (.element { e with selfClosing := selfClosing })
  | elementPlace (e : Element ℓ) (loc : ℓ) :
      Statement.Edit (.element e) (.element { e with loc := loc })

inductive Statement.Silent : Statement ℓ → Prop where
  | text (t : TextRun ℓ) : Statement.Silent (.text t)
  | mustacheComment (c : Comment ℓ) : Statement.Silent (.mustacheComment c)
  | comment (c : Comment ℓ) : Statement.Silent (.comment c)

/-! ## Templates -/

/-- One edit of a template: of its own place, or in the body of one of its scopes. -/
inductive Template.Edit : Template ℓ → Template ℓ → Prop where
  | place (t : Template ℓ) (loc : ℓ) : Template.Edit t { t with loc := loc }
  | inside (c : Surroundings ℓ) (names : List String) {body body' : List (Statement ℓ)} :
      EditIn Statement.Edit Statement.Silent body body' →
      Template.Edit (c.fill names body) (c.fill names body')

/-- One template comes from the other by edits that are made, or undone, one after another. -/
def Template.Edits : Template ℓ → Template ℓ → Prop :=
  Relation.ReflTransGen fun t t' => t.Edit t' ∨ t'.Edit t

end TemplateScope
