import TemplateScope.Text.Hex
import TemplateScope.Walk.Visitor

/-!
# The events of a walk

`walkEvents` follows a walk by writing down every hook call with a label. Chosen hooks may be
skipped, so that nothing below them is visited, and the walk may be ended after a given number of
calls.
-/

namespace TemplateScope

/-- The hooks of a visitor, as things that can be named. -/
inductive Hook where
  | template
  | block
  | statement
  | mustache
  | blockStatement
  | element
  | elementChildren
  | attr
  | elementModifier
  | text
  | mustacheComment
  | comment
  | expression
  | subExpression
  | path
  | literal
  | hash
deriving DecidableEq, Repr

namespace Hook

def name : Hook → String
  | .template => "template"
  | .block => "block"
  | .statement => "statement"
  | .mustache => "mustache"
  | .blockStatement => "blockStatement"
  | .element => "element"
  | .elementChildren => "elementChildren"
  | .attr => "attribute"
  | .elementModifier => "elementModifier"
  | .text => "text"
  | .mustacheComment => "mustacheComment"
  | .comment => "comment"
  | .expression => "expression"
  | .subExpression => "subExpression"
  | .path => "path"
  | .literal => "literal"
  | .hash => "hash"

def all : List Hook :=
  [.template, .block, .statement, .mustache, .blockStatement, .element, .elementChildren, .attr,
    .elementModifier, .text, .mustacheComment, .comment, .expression, .subExpression, .path,
    .literal, .hash]

def ofName? (name : String) : Option Hook := all.find? (·.name == name)

end Hook

structure Event where
  hook : Hook
  label : String
deriving DecidableEq, Repr

variable {ℓ : Type}

/-! ## Labels -/

def Literal.label : Literal → String
  | .string value => "string:" ++ value
  | .number bits => "number:" ++ String.ofList (Hex.padded 16 bits.toNat)
  | .boolean true => "boolean:true"
  | .boolean false => "boolean:false"
  | .null => "null"
  | .undefined => "undefined"

/-- A callee is spelled out if it is a path and named by its kind otherwise. -/
def Expression.calleeLabel : Expression ℓ → String
  | .path p _ => p.spelling
  | .call _ _ => "(sub)"
  | .literal _ _ => "(literal)"

def Expression.kindLabel : Expression ℓ → String
  | .path _ _ => "path"
  | .call _ _ => "sub"
  | .literal _ _ => "literal"

def Statement.kindLabel : Statement ℓ → String
  | .mustache _ => "mustache"
  | .block _ => "block"
  | .element _ => "element"
  | .text _ => "text"
  | .mustacheComment _ => "mustacheComment"
  | .comment _ => "comment"

def Hash.label (h : Hash ℓ) : String := ",".intercalate (h.pairs.map HashPair.key)

/-! ## Recording -/

/-- What is left out of a walk, and when it ends early. -/
structure EventPlan where
  skip : List Hook := []
  stopAfter : Option Nat := none
deriving DecidableEq, Repr

namespace EventPlan

/-- Write a call down; then end the walk if that was the last call wanted, and otherwise go on
unless the hook is skipped. The error is the number of calls made. -/
def record (plan : EventPlan) (hook : Hook) (label : String)
    (below : Visit (Array Event) Nat Unit) : Visit (Array Event) Nat Unit := do
  modify (·.push ⟨hook, label⟩)
  let calls := (← get).size
  if plan.stopAfter = some calls then throw calls
  else if hook ∈ plan.skip then pure ()
  else below

theorem record_apply (plan : EventPlan) (hook : Hook) (label : String)
    (below : Visit (Array Event) Nat Unit) (log : Array Event) :
    plan.record hook label below log =
      if plan.stopAfter = some (log.size + 1) then
        (.error (log.size + 1), log.push ⟨hook, label⟩)
      else if hook ∈ plan.skip then (.ok (), log.push ⟨hook, label⟩)
      else below (log.push ⟨hook, label⟩) := by
  change (if plan.stopAfter = some (log.push ⟨hook, label⟩).size then
      throw (log.push ⟨hook, label⟩).size
    else if hook ∈ plan.skip then pure () else below : Visit (Array Event) Nat Unit)
      (log.push ⟨hook, label⟩) = _
  rw [Array.size_push]
  split
  · rfl
  · split <;> rfl

/-- The visitor that overrides every hook. -/
def visitor (plan : EventPlan) : Visitor ℓ (Array Event) Nat where
  template t := plan.record .template (",".intercalate t.blockParams)
  block b := plan.record .block (",".intercalate b.blockParams)
  statement s := plan.record .statement s.kindLabel
  mustache m := plan.record .mustache m.call.callee.calleeLabel
  blockStatement b := plan.record .blockStatement b.call.callee.calleeLabel
  element e := plan.record .element e.tag
  elementChildren e := plan.record .elementChildren e.tag
  attr a := plan.record .attr a.name
  modifier m := plan.record .elementModifier m.call.callee.calleeLabel
  text t := plan.record .text t.chars (pure ())
  mustacheComment c := plan.record .mustacheComment c.value (pure ())
  comment c := plan.record .comment c.value (pure ())
  expression e := plan.record .expression e.kindLabel
  subExpression c _ := plan.record .subExpression c.callee.calleeLabel
  path p _ := plan.record .path p.spelling (pure ())
  literal l _ := plan.record .literal l.label (pure ())
  hash h := plan.record .hash h.label

end EventPlan

structure EventTrace where
  events : Array Event
  /-- After how many calls the walk was ended, unless it ended by itself. -/
  stoppedAfter : Option Nat
deriving DecidableEq, Repr

def walkEvents (plan : EventPlan) (t : Template ℓ) : EventTrace :=
  match plan.visitor.run t #[] with
  | (.ok (), events) => ⟨events, none⟩
  | (.error calls, events) => ⟨events, some calls⟩

end TemplateScope
