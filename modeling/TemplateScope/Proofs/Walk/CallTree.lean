import TemplateScope.Proofs.Walk.Outline
import TemplateScope.Walk.CallTree

/-!
# The calls of a call tree

`CallTree.occurrences` lists the calls of a tree, each with its address and with the hooks that
enclose it. The addresses show that the list is complete (`mem_occurrences_iff`) and that it is in
document order without repetition (`pairwise_occurrences`). The enclosing hooks decide alone what
skipping leaves of it (`map_event_filter_occurrences`).

A walk is known from its outline, so the call tree of a template is read off from its outline too
(`Template.callTrees_outline`).
-/

namespace TemplateScope

/-! ## Occurrences -/

structure Occurrence where
  /-- Which call to go down to, at each level, counted among those that one call encloses. -/
  address : List Nat
  /-- The hooks of the calls gone down through, outermost first. -/
  enclosing : List Hook
  event : Event
deriving DecidableEq, Repr

namespace Occurrence

/-- The same call, seen from a call that encloses its tree as number `i`. -/
def within (hook : Hook) (i : Nat) (o : Occurrence) : Occurrence :=
  ⟨i :: o.address, hook :: o.enclosing, o.event⟩

/-- No enclosing hook is skipped. -/
def reached (skip : List Hook) (o : Occurrence) : Bool := o.enclosing.all (· ∉ skip)

theorem reached_within (skip : List Hook) (hook : Hook) (i : Nat) (o : Occurrence) :
    (o.within hook i).reached skip = (decide (hook ∉ skip) && o.reached skip) := rfl

end Occurrence

namespace CallTree

/-- A call stands in a tree, at this address and enclosed by these hooks. -/
inductive Has : CallTree → Occurrence → Prop where
  | root (event : Event) (below : List CallTree) : Has (.node event below) ⟨[], [], event⟩
  | child {event : Event} {trees : List CallTree} {i : Nat} {tree : CallTree} {o : Occurrence} :
      trees[i]? = some tree → tree.Has o → Has (.node event trees) (o.within event.hook i)

mutual

/-- The calls of a tree in document order, a call before those that it encloses. -/
def occurrences : CallTree → List Occurrence
  | .node event below => ⟨[], [], event⟩ :: occurrencesAll event.hook 0 below

/-- The calls of trees that `hook` encloses, numbered from `i` on. -/
def occurrencesAll (hook : Hook) (i : Nat) : List CallTree → List Occurrence
  | [] => []
  | tree :: rest =>
      (occurrences tree).map (Occurrence.within hook i) ++ occurrencesAll hook (i + 1) rest

end

theorem mem_occurrencesAll_iff {hook : Hook} {i : Nat} {trees : List CallTree} {o : Occurrence} :
    o ∈ occurrencesAll hook i trees ↔
      ∃ (k : Nat) (tree : CallTree) (o' : Occurrence),
        trees[k]? = some tree ∧ o' ∈ tree.occurrences ∧ o'.within hook (i + k) = o := by
  induction trees generalizing i with
  | nil => simp [occurrencesAll]
  | cons tree rest ih =>
      rw [occurrencesAll, List.mem_append, List.mem_map, ih]
      constructor
      · rintro (⟨o', ho', rfl⟩ | ⟨k, tree', o', hk, ho', rfl⟩)
        · exact ⟨0, tree, o', rfl, ho', rfl⟩
        · exact ⟨k + 1, tree', o', hk, ho', by rw [Nat.add_right_comm, Nat.add_assoc]⟩
      · rintro ⟨_ | k, tree', o', hk, ho', rfl⟩
        · cases hk
          exact .inl ⟨o', ho', rfl⟩
        · exact .inr ⟨k, tree', o', hk, ho', by rw [Nat.add_right_comm, Nat.add_assoc]⟩

/-! ### Completeness and order -/

mutual

theorem has_of_mem_occurrences :
    ∀ {tree : CallTree} {o : Occurrence}, o ∈ tree.occurrences → tree.Has o
  | .node event below, o, h => by
      rcases List.mem_cons.1 h with rfl | h
      · exact .root event below
      · obtain ⟨k, tree, o', hk, ho', rfl⟩ := mem_occurrencesAll_iff.1 h
        rw [Nat.zero_add]
        exact .child hk (has_of_mem_occurrences_getElem? hk ho')

theorem has_of_mem_occurrences_getElem? : ∀ {trees : List CallTree} {k : Nat} {tree : CallTree}
    {o : Occurrence}, trees[k]? = some tree → o ∈ tree.occurrences → tree.Has o
  | _ :: _, 0, _, _, hk, h => by
      cases hk
      exact has_of_mem_occurrences h
  | _ :: rest, k + 1, tree, _, hk, h => by
      have hrest : rest[k]? = some tree := hk
      exact has_of_mem_occurrences_getElem? hrest h

end

theorem mem_occurrences_iff {tree : CallTree} {o : Occurrence} :
    o ∈ tree.occurrences ↔ tree.Has o := by
  refine ⟨has_of_mem_occurrences, fun h => ?_⟩
  induction h with
  | root event below => exact List.mem_cons_self
  | @child event trees i tree o hi _ ih =>
      refine List.mem_cons_of_mem _ (mem_occurrencesAll_iff.2 ⟨i, tree, o, hi, ih, ?_⟩)
      rw [Nat.zero_add]

mutual

/-- Addresses grow from one call to the next, so no call is listed twice. -/
theorem pairwise_occurrences :
    ∀ tree : CallTree, tree.occurrences.Pairwise fun a b => a.address < b.address
  | .node event below => by
      refine List.pairwise_cons.2 ⟨fun o ho => ?_, pairwise_occurrencesAll event.hook 0 below⟩
      obtain ⟨k, _, o', _, _, rfl⟩ := mem_occurrencesAll_iff.1 ho
      exact List.nil_lt_cons _ _

theorem pairwise_occurrencesAll (hook : Hook) (i : Nat) : ∀ trees : List CallTree,
    (occurrencesAll hook i trees).Pairwise fun a b => a.address < b.address
  | [] => .nil
  | tree :: rest => by
      rw [occurrencesAll, List.pairwise_append, List.pairwise_map]
      refine ⟨(pairwise_occurrences tree).imp fun h => List.cons_lt_cons_iff.2 (.inr ⟨rfl, h⟩),
        pairwise_occurrencesAll hook (i + 1) rest, fun a ha b hb => ?_⟩
      obtain ⟨a', _, rfl⟩ := List.mem_map.1 ha
      obtain ⟨k, _, b', _, _, rfl⟩ := mem_occurrencesAll_iff.1 hb
      exact List.cons_lt_cons_iff.2 (.inl (by omega))

end

/-! ### Skipping -/

mutual

/-- The calls that remain are those that no skipped hook encloses. -/
theorem map_event_filter_occurrences (skip : List Hook) : ∀ tree : CallTree,
    (tree.occurrences.filter (·.reached skip)).map (·.event) = tree.preorder skip
  | .node event below => by
      rw [occurrences, List.filter_cons_of_pos rfl, List.map_cons, preorder,
        map_event_filter_occurrencesAll skip event.hook 0 below]

theorem map_event_filter_occurrencesAll (skip : List Hook) (hook : Hook) (i : Nat) :
    ∀ trees : List CallTree,
      ((occurrencesAll hook i trees).filter (·.reached skip)).map (·.event) =
        if hook ∈ skip then [] else preorderAll skip trees
  | [] => by simp [occurrencesAll, preorderAll]
  | tree :: rest => by
      rw [occurrencesAll, List.filter_append, List.map_append,
        map_event_filter_occurrencesAll skip hook (i + 1) rest, List.filter_map, List.map_map]
      by_cases h : hook ∈ skip
      · simp [Function.comp_def, Occurrence.reached_within, h]
      · rw [if_neg h, if_neg h, preorderAll, ← map_event_filter_occurrences skip tree]
        simp only [Function.comp_def, Occurrence.reached_within, h, not_false_eq_true, decide_true,
          Bool.true_and]
        rfl

end

theorem map_event_occurrences (tree : CallTree) :
    tree.occurrences.map (·.event) = tree.preorder [] := by
  rw [← map_event_filter_occurrences, List.filter_eq_self.2]
  intro o _
  simp [Occurrence.reached]

theorem preorderAll_append (skip : List Hook) (trees others : List CallTree) :
    preorderAll skip (trees ++ others) = preorderAll skip trees ++ preorderAll skip others := by
  induction trees with
  | nil => rfl
  | cons tree rest ih => rw [List.cons_append, preorderAll, preorderAll, ih, List.append_assoc]

end CallTree

/-! ## The call trees of an outline -/

variable {ℓ : Type}

/-- The call of a node, enclosing `below` if its hook is given what lies below the node. Otherwise
they come behind it; in the outline of a template there are none then. -/
def Node.callTrees : Node ℓ → List CallTree → List CallTree
  | .template t, below => [.node ⟨.template, ",".intercalate t.blockParams⟩ below]
  | .block b, below => [.node ⟨.block, ",".intercalate b.blockParams⟩ below]
  | .statement s, below => [.node ⟨.statement, s.kindLabel⟩ below]
  | .mustache m, below => [.node ⟨.mustache, m.call.callee.calleeLabel⟩ below]
  | .blockStatement b, below => [.node ⟨.blockStatement, b.call.callee.calleeLabel⟩ below]
  | .element e, below => [.node ⟨.element, e.tag⟩ below]
  | .elementChildren e, below => [.node ⟨.elementChildren, e.tag⟩ below]
  | .attr a, below => [.node ⟨.attr, a.name⟩ below]
  | .modifier m, below => [.node ⟨.elementModifier, m.call.callee.calleeLabel⟩ below]
  | .text t, below => t.callTree :: below
  | .mustacheComment c, below => c.callTree :: below
  | .comment c, below => .leaf .comment c.value :: below
  | .expression e, below => [.node ⟨.expression, e.kindLabel⟩ below]
  | .subExpression c _, below => [.node ⟨.subExpression, c.callee.calleeLabel⟩ below]
  | .path p _, below => .leaf .path p.spelling :: below
  | .literal l _, below => .leaf .literal l.label :: below
  | .hash h, below => [.node ⟨.hash, h.label⟩ below]

namespace Outline

mutual

def callTrees : Outline ℓ → List CallTree
  | .node n below => n.callTrees (callTreesAll below)

def callTreesAll : List (Outline ℓ) → List CallTree
  | [] => []
  | o :: rest => callTrees o ++ callTreesAll rest

end

theorem callTreesAll_append (os others : List (Outline ℓ)) :
    callTreesAll (os ++ others) = callTreesAll os ++ callTreesAll others := by
  induction os with
  | nil => rfl
  | cons o rest ih => rw [List.cons_append, callTreesAll, callTreesAll, ih, List.append_assoc]

theorem callTreesAll_singleton (o : Outline ℓ) : callTreesAll [o] = o.callTrees := by
  rw [callTreesAll, callTreesAll, List.append_nil]

theorem callTreesAll_map {α : Type} {outline : α → Outline ℓ} {tree : α → CallTree}
    (h : ∀ x, (outline x).callTrees = [tree x]) (xs : List α) :
    callTreesAll (xs.map outline) = xs.map tree := by
  induction xs with
  | nil => rfl
  | cons x rest ih => rw [List.map_cons, callTreesAll, h, ih, List.map_cons, List.singleton_append]

end Outline

open Outline

mutual

theorem Expression.callTrees_outline : ∀ e : Expression ℓ, e.outline.callTrees = [e.callTree]
  | .path _ _ => rfl
  | .call c _ => by
      rw [Expression.outline, Outline.callTrees, callTreesAll_singleton, Outline.callTrees,
        Call.callTreesAll_outlines c]
      rfl
  | .literal _ _ => rfl

theorem Call.callTreesAll_outlines : ∀ c : Call ℓ, callTreesAll c.outlines = c.callTrees
  | ⟨callee, params, hash⟩ => by
      rw [Call.outlines, callTreesAll, callTreesAll_append, callTreesAll_singleton,
        Expression.callTrees_outline callee, Expression.callTreesAll_outlines params,
        Hash.callTrees_outline hash]
      rfl

theorem Hash.callTrees_outline : ∀ h : Hash ℓ, h.outline.callTrees = [h.callTree]
  | ⟨pairs, _⟩ => by
      rw [Hash.outline, Outline.callTrees, HashPair.callTreesAll_outlines pairs]
      rfl

theorem Expression.callTreesAll_outlines : ∀ es : List (Expression ℓ),
    callTreesAll (Expression.outlines es) = Expression.callTrees es
  | [] => rfl
  | e :: rest => by
      rw [Expression.outlines, callTreesAll, Expression.callTrees_outline e,
        Expression.callTreesAll_outlines rest]
      rfl

theorem HashPair.callTreesAll_outlines : ∀ ps : List (HashPair ℓ),
    callTreesAll (HashPair.outlines ps) = HashPair.callTrees ps
  | [] => rfl
  | ⟨_, value, _⟩ :: rest => by
      rw [HashPair.outlines, callTreesAll, Expression.callTrees_outline value,
        HashPair.callTreesAll_outlines rest]
      rfl

end

theorem Mustache.callTrees_outline (m : Mustache ℓ) : m.outline.callTrees = [m.callTree] := by
  rw [Mustache.outline, Outline.callTrees, Call.callTreesAll_outlines]
  rfl

theorem Modifier.callTrees_outline (m : Modifier ℓ) : m.outline.callTrees = [m.callTree] := by
  rw [Modifier.outline, Outline.callTrees, Call.callTreesAll_outlines]
  rfl

theorem ConcatPart.callTrees_outline (part : ConcatPart ℓ) :
    part.outline.callTrees = [part.callTree] := by
  cases part with
  | text t => rfl
  | mustache m => exact Mustache.callTrees_outline m

theorem AttributeValue.callTreesAll_outlines (value : AttributeValue ℓ) :
    callTreesAll value.outlines = value.callTrees := by
  cases value with
  | text t => rfl
  | mustache m =>
      rw [AttributeValue.outlines, callTreesAll_singleton, Mustache.callTrees_outline]
      rfl
  | concat parts _ => exact callTreesAll_map ConcatPart.callTrees_outline parts

theorem Attribute.callTrees_outline (a : Attribute ℓ) : a.outline.callTrees = [a.callTree] := by
  rw [Attribute.outline, Outline.callTrees, AttributeValue.callTreesAll_outlines]
  rfl

mutual

theorem Statement.callTrees_outline : ∀ s : Statement ℓ, s.outline.callTrees = [s.callTree]
  | .mustache m => by
      rw [Statement.outline, Outline.callTrees, callTreesAll_singleton,
        Mustache.callTrees_outline m]
      rfl
  | .block b => by
      rw [Statement.outline, Outline.callTrees, callTreesAll_singleton,
        BlockStatement.callTrees_outline b]
      rfl
  | .element e => by
      rw [Statement.outline, Outline.callTrees, callTreesAll_singleton, Element.callTrees_outline e]
      rfl
  | .text _ => rfl
  | .mustacheComment _ => rfl
  | .comment _ => rfl

theorem BlockStatement.callTrees_outline :
    ∀ b : BlockStatement ℓ, b.outline.callTrees = [b.callTree]
  | ⟨call, program, none, _⟩ => by
      rw [BlockStatement.outline, Outline.callTrees, callTreesAll_append, callTreesAll_singleton,
        Call.callTreesAll_outlines call, Block.callTrees_outline program]
      rfl
  | ⟨call, program, some inverse, _⟩ => by
      rw [BlockStatement.outline, Outline.callTrees, callTreesAll_append, callTreesAll,
        callTreesAll_singleton, Call.callTreesAll_outlines call, Block.callTrees_outline program,
        Block.callTrees_outline inverse]
      rfl

theorem Block.callTrees_outline : ∀ b : Block ℓ, b.outline.callTrees = [b.callTree]
  | ⟨_, body, _⟩ => by
      rw [Block.outline, Outline.callTrees, Statement.callTreesAll_outlines body]
      rfl

theorem Element.callTrees_outline : ∀ e : Element ℓ, e.outline.callTrees = [e.callTree]
  | ⟨_, attributes, _, modifiers, comments, children, _, _⟩ => by
      rw [Element.outline, Outline.callTrees, callTreesAll_append, callTreesAll_append,
        callTreesAll, Outline.callTrees, Statement.callTreesAll_outlines children,
        callTreesAll_map Attribute.callTrees_outline, callTreesAll_map Modifier.callTrees_outline,
        callTreesAll_map fun _ => rfl, Element.callTree, ← List.append_assoc]
      rfl

theorem Statement.callTreesAll_outlines : ∀ ss : List (Statement ℓ),
    callTreesAll (Statement.outlines ss) = Statement.callTrees ss
  | [] => rfl
  | s :: rest => by
      rw [Statement.outlines, callTreesAll, Statement.callTrees_outline s,
        Statement.callTreesAll_outlines rest]
      rfl

end

theorem Template.callTrees_outline (t : Template ℓ) : t.outline.callTrees = [t.callTree] := by
  rw [Template.outline, Outline.callTrees, Statement.callTreesAll_outlines]
  rfl

end TemplateScope
