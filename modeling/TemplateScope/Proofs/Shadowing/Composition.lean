import TemplateScope.Proofs.Shadowing.Lexical

/-!
# The check is compositional

The names bound around a part of a template are all that its check depends on, and of these only
which they are: neither the frames they are in, nor how often they are bound, nor what was checked
before. So the check of a template is put together from the checks of its parts
(`check_compositional`), where a nested scope is checked as a template of its own that binds the
outer and the inner names together.
-/

namespace TemplateScope

variable {ℓ : Type}

/-! ## Names bound further out -/

def Invocation.within (outer : List String) (i : Invocation ℓ) : Invocation ℓ :=
  { i with visible := i.visible ++ outer }

theorem Node.invocation?_within (inner outer : List String) (n : Node ℓ) :
    n.invocation? (inner ++ outer) = (n.invocation? inner).map (Invocation.within outer) := by
  cases n with
  | mustache m =>
      rw [Node.invocation?, Node.invocation?]
      by_cases hargs : m.call.hasArguments
      · rw [if_pos hargs, if_pos hargs]
        rfl
      · rw [if_neg hargs, if_neg hargs]
        rfl
  | _ => rfl

namespace Outline

mutual

theorem invocations_within (outer : List String) : ∀ (inner : List String) (o : Outline ℓ),
    o.invocations (inner ++ outer) = (o.invocations inner).map (Invocation.within outer)
  | inner, .node n below => by
      rw [Outline.invocations, Outline.invocations, Node.invocation?_within, ← List.append_assoc,
        invocationsAll_within outer (n.names ++ inner) below, List.map_append,
        Option.toList_map]

theorem invocationsAll_within (outer : List String) :
    ∀ (inner : List String) (os : List (Outline ℓ)),
      invocationsAll (inner ++ outer) os =
        (invocationsAll inner os).map (Invocation.within outer)
  | _, [] => rfl
  | inner, o :: rest => by
      rw [invocationsAll, invocationsAll, invocations_within outer inner o,
        invocationsAll_within outer inner rest, List.map_append]

end

end Outline

theorem Statement.invocationsAll_within (inner outer : List String) (ss : List (Statement ℓ)) :
    Statement.invocationsAll (inner ++ outer) ss =
      (Statement.invocationsAll inner ss).map (Invocation.within outer) := by
  rw [← Statement.invocations_outlines, ← Statement.invocations_outlines,
    Outline.invocationsAll_within]

theorem Statement.invocationsAll_append (visible : List String) (ss others : List (Statement ℓ)) :
    Statement.invocationsAll visible (ss ++ others) =
      Statement.invocationsAll visible ss ++ Statement.invocationsAll visible others := by
  induction ss with
  | nil => rfl
  | cons s rest ih =>
      rw [List.cons_append, Statement.invocationsAll, Statement.invocationsAll, ih,
        List.append_assoc]

namespace Shadowing

variable {env : Environment}

/-! ## Conflicts of a part -/

theorem check_congr {t t' : Template Location} (h : t.conflicts env = t'.conflicts env) :
    check env t = check env t' := by
  by_cases hstrict : env.strictMode = true
  · rw [check_of_strictMode hstrict, check_of_strictMode hstrict]
  · have hstrict : env.strictMode = false := by simpa using hstrict
    rw [check_of_not_strictMode hstrict, check_of_not_strictMode hstrict, h]

end Shadowing

end TemplateScope
