import TemplateScope.Proofs.Syntax.ElementParts
import TemplateScope.Proofs.Walk.Outline
import TemplateScope.Syntax.Annotation
import TemplateScope.Syntax.Builder

/-!
# Trees as they were described

Whether a tree is built depends on every place that its description gives, and what is built stands
as it was described. `Outcome` says both of a computation, and of computations in a row if it holds
of each. So it carries over from one move of a builder to a whole template
(`Template.outcome_build`): a described template is refused just if some place in it ends before it
starts, and otherwise every node has its own place, and every hash pair that of its value
(`Template.build_as_described`).
-/

namespace TemplateScope

variable {ε α β γ : Type}

/-! ## Computations that may be refused -/

/-- If `accepted` holds the computation gives something `good`, and if not it is refused. -/
structure Outcome (x : Except ε α) (accepted : Prop) (good : α → Prop) : Prop where
  ok : accepted → ∃ a, x = .ok a ∧ good a
  error : ¬ accepted → ∃ e, x = .error e

namespace Outcome

variable {x : Except ε α} {p q : Prop} {good : α → Prop} {good' : β → Prop}

theorem pure {a : α} (hp : p) (ha : good a) : Outcome (Pure.pure a : Except ε α) p good :=
  ⟨fun _ => ⟨a, rfl, ha⟩, fun hnot => absurd hp hnot⟩

theorem bind {y : α → Except ε β} (hx : Outcome x p good)
    (hy : ∀ a, good a → Outcome (y a) q good') : Outcome (x >>= y) (p ∧ q) good' where
  ok h := by
    obtain ⟨a, rfl, ha⟩ := hx.ok h.1
    exact (hy a ha).ok h.2
  error h := by
    by_cases hp : p
    · obtain ⟨a, rfl, ha⟩ := hx.ok hp
      exact (hy a ha).error fun hq => h ⟨hp, hq⟩
    · obtain ⟨e, rfl⟩ := hx.error hp
      exact ⟨e, rfl⟩

theorem good_of_ok {a : α} (h : Outcome x p good) (hok : x = .ok a) : good a := by
  by_cases hp : p
  · obtain ⟨a', hok', ha⟩ := h.ok hp
    cases hok.symm.trans hok'
    exact ha
  · obtain ⟨e, herror⟩ := h.error hp
    cases hok.symm.trans herror

theorem of_iff (h : Outcome x p good) (hiff : q ↔ p) : Outcome x q good :=
  ⟨fun hq => h.ok (hiff.1 hq), fun hq => h.error fun hp => hq (hiff.2 hp)⟩

theorem map {g : α → β} (hx : Outcome x p good) (hg : ∀ a, good a → good' (g a)) :
    Outcome (x >>= fun a => Pure.pure (g a)) p good' :=
  (hx.bind fun a ha => .pure trivial (hg a ha)).of_iff (and_true p).symm.to_iff

theorem mapM {f : α → Except ε β} {accepted : α → Prop} {view : β → γ} {expected : α → γ}
    {settled : β → Prop}
    (h : ∀ a, Outcome (f a) (accepted a) fun b => view b = expected a ∧ settled b) (as : List α) :
    Outcome (as.mapM f) (∀ a ∈ as, accepted a)
      fun bs => bs.map view = as.map expected ∧ ∀ b ∈ bs, settled b := by
  induction as with
  | nil =>
      rw [List.mapM_nil]
      exact .pure nofun ⟨rfl, nofun⟩
  | cons a rest ih =>
      rw [List.mapM_cons]
      refine ((h a).bind fun b hb => ih.map fun bs hbs => ?_).of_iff List.forall_mem_cons
      exact ⟨by rw [List.map_cons, List.map_cons, hb.1, hbs.1], List.forall_mem_cons.2 ⟨hb.2, hbs.2⟩⟩

end Outcome

/-! ## Moving a builder -/

def Place.Sound (place : Place) : Prop := ∀ c ∈ place, c.Ordered

theorem Location.outcome_ofCoords (c : Coords) :
    Outcome (ofCoords c) c.Ordered (·.toCoords = c) where
  ok h := ⟨⟨c.start, c.stop, h⟩, ofCoords_eq_ok_iff.2 rfl, rfl⟩
  error h := ⟨.endsBeforeStart, ofCoords_eq_error_iff.2 h⟩

theorem Element.foldl_extend_map {ℓ : Type} (step : α → ElementStep ℓ)
    (put : Element ℓ → List α → Element ℓ) (hnil : ∀ e, put e [] = e)
    (hcons : ∀ e x xs, put (e.extend (step x)) xs = put e (x :: xs)) (xs : List α) (e : Element ℓ) :
    (xs.map step).foldl extend e = put e xs := by
  induction xs generalizing e with
  | nil => exact (hnil e).symm
  | cons x xs ih => rw [List.map_cons, List.foldl_cons, ih, hcons]

namespace TemplateBuilder

/-- The coordinates of a node for which the description gives this place. -/
def coordsAt (b : TemplateBuilder) (place : Place) : Coords := place.getD b.loc.toCoords

theorem outcome_movedTo (b : TemplateBuilder) (place : Place) :
    Outcome (b.movedTo place) place.Sound (·.loc.toCoords = b.coordsAt place) := by
  cases place with
  | none => exact .pure nofun rfl
  | some c =>
      have hmoved : Outcome (b.movedToCoords c) c.Ordered (·.loc.toCoords = c) :=
        (Location.outcome_ofCoords c).map fun loc hloc => hloc
      exact hmoved.of_iff (by simp [Place.Sound])

theorem outcome_leaf (b : TemplateBuilder) {place : Place} {make : TemplateBuilder → α}
    {good : α → Prop} (h : ∀ b', b'.loc.toCoords = b.coordsAt place → good (make b')) :
    Outcome (b.movedTo place >>= fun b' => Pure.pure (make b')) (∀ p ∈ [place], p.Sound) good :=
  ((b.outcome_movedTo place).map h).of_iff List.forall_mem_singleton

/-- A node with something below it, which does not depend on where the builder is moved. -/
theorem outcome_over (b : TemplateBuilder) {place : Place} {places : List Place}
    {below : Except LocationError β} {goodBelow : β → Prop} {make : TemplateBuilder → β → α}
    {good : α → Prop} (hbelow : Outcome below (∀ p ∈ places, p.Sound) goodBelow)
    (h : ∀ b', b'.loc.toCoords = b.coordsAt place → ∀ x, goodBelow x → good (make b' x)) :
    Outcome (b.movedTo place >>= fun b' => below >>= fun x => Pure.pure (make b' x))
      (∀ p ∈ place :: places, p.Sound) good :=
  ((b.outcome_movedTo place).bind fun b' hb => hbelow.map (h b' hb)).of_iff List.forall_mem_cons

/-- A hash takes the location of the builder, and no pair of it does. -/
theorem loc_eq_of_mem_hash (b : TemplateBuilder) (pairs : List (String × Expression Location)) :
    ∀ pair ∈ (b.hash pairs).pairs, pair.loc = pair.value.loc :=
  List.forall_mem_map.2 fun _ _ => rfl

theorem ite_tripleCurly (b : TemplateBuilder) (call : Call Location) (trusting : Bool) :
    (if trusting then b.tripleCurly call else b.mustache call) =
      .mustache ⟨call, trusting, b.loc⟩ := by
  cases trusting <;> rfl

theorem element_inTurn (b : TemplateBuilder) (tag : String) (attributes : List (Attribute Location))
    (blockParams : List String) (modifiers : List (Modifier Location))
    (comments : List (Comment Location)) (children : List (Statement Location))
    (selfClosing : Bool) :
    b.element tag
        (ElementStep.inTurn attributes blockParams modifiers comments children selfClosing) =
      .element ⟨tag, attributes, blockParams, modifiers, comments, children, selfClosing,
        b.loc⟩ := by
  have hattributes := Element.foldl_extend_map ElementStep.attr
    (fun (e : Element Location) xs => { e with attributes := e.attributes ++ xs })
    (fun e => by cases e; simp) (by simp [Element.extend])
  have hmodifiers := Element.foldl_extend_map ElementStep.modifier
    (fun (e : Element Location) xs => { e with modifiers := e.modifiers ++ xs })
    (fun e => by cases e; simp) (by simp [Element.extend])
  have hcomments := Element.foldl_extend_map ElementStep.comment
    (fun (e : Element Location) xs => { e with comments := e.comments ++ xs })
    (fun e => by cases e; simp) (by simp [Element.extend])
  rw [element, Element.ofSteps, ElementStep.inTurn, List.foldl_append, List.foldl_append,
    List.foldl_append, List.foldl_append, List.foldl_append, hattributes, hmodifiers, hcomments]
  cases selfClosing <;> rfl

end TemplateBuilder

/-! ## Hash pairs -/

variable {ℓ : Type}

def Node.hashPairs : Node ℓ → List (HashPair ℓ)
  | .hash h => h.pairs
  | _ => []

def Template.hashPairs (t : Template ℓ) : List (HashPair ℓ) :=
  t.outline.nodes.flatMap Node.hashPairs

/-- Every hash pair stands where its value stands. -/
inductive Outline.Settled : Outline ℓ → Prop where
  | node {head : Node ℓ} {below : List (Outline ℓ)} :
      (∀ pair ∈ head.hashPairs, pair.loc = pair.value.loc) → (∀ o ∈ below, o.Settled) →
      Settled (.node head below)

namespace Outline

theorem settled_leaf {head : Node ℓ} (h : head.hashPairs = []) : (Outline.node head []).Settled :=
  .node (h ▸ nofun) nofun

theorem settled_node {head : Node ℓ} {below : List (Outline ℓ)} (h : head.hashPairs = [])
    (hbelow : ∀ o ∈ below, o.Settled) : (Outline.node head below).Settled :=
  .node (h ▸ nofun) hbelow

theorem settled_over {head : Node ℓ} {o : Outline ℓ} (h : head.hashPairs = []) (ho : o.Settled) :
    (Outline.node head [o]).Settled :=
  settled_node h (List.forall_mem_singleton.2 ho)

mutual

theorem Settled.loc_eq : ∀ {o : Outline ℓ}, o.Settled →
    ∀ pair ∈ o.nodes.flatMap Node.hashPairs, pair.loc = pair.value.loc
  | .node _ _, .node hhead hbelow => by
      rw [nodes, List.flatMap_cons]
      exact List.forall_mem_append.2 ⟨hhead, Settled.loc_eq_all hbelow⟩

theorem Settled.loc_eq_all : ∀ {os : List (Outline ℓ)}, (∀ o ∈ os, o.Settled) →
    ∀ pair ∈ (nodesAll os).flatMap Node.hashPairs, pair.loc = pair.value.loc
  | [], _ => nofun
  | _ :: _, hos => by
      obtain ⟨ho, hrest⟩ := List.forall_mem_cons.1 hos
      rw [nodesAll, List.flatMap_append]
      exact List.forall_mem_append.2 ⟨Settled.loc_eq ho, Settled.loc_eq_all hrest⟩

end

end Outline

/-! ## Class by class -/

section Build

variable (b : TemplateBuilder)

theorem Literal.mapLoc_build (value : Literal) :
    (value.build b).mapLoc Location.toCoords (fun _ => ()) = .literal value b.loc.toCoords := by
  cases value <;> rfl

theorem Literal.settled_build (value : Literal) : (value.build b).outline.Settled := by
  cases value <;> exact Outline.settled_over rfl (Outline.settled_leaf rfl)

mutual

theorem Expression.outcome_build : ∀ e : Expression Place Unit,
    Outcome (e.build b) (∀ place ∈ e.locs, place.Sound) fun e' =>
      e'.mapLoc Location.toCoords (fun _ => ()) = e.mapLoc b.coordsAt id ∧ e'.outline.Settled
  | .path p place => by
      rw [Expression.build]
      refine b.outcome_leaf fun b' hb => ⟨?_, ?_⟩
      · rw [TemplateBuilder.pathOf, Expression.mapLoc, hb, Expression.mapLoc]
      · exact Outline.settled_over rfl (Outline.settled_leaf rfl)
  | .call call place => by
      rw [Expression.build]
      refine b.outcome_over (Call.outcome_build call) fun b' hb call' hcall => ⟨?_, ?_⟩
      · rw [TemplateBuilder.subExpression, Expression.mapLoc, hb, hcall.1, Expression.mapLoc]
      · exact Outline.settled_over rfl (Outline.settled_node rfl hcall.2)
  | .literal value place => by
      rw [Expression.build]
      refine b.outcome_leaf fun b' hb => ⟨?_, ?_⟩
      · rw [Literal.mapLoc_build, hb, Expression.mapLoc]
      · exact value.settled_build b'

theorem Call.outcome_build : ∀ c : Call Place Unit,
    Outcome (c.build b) (∀ place ∈ c.locs, place.Sound) fun c' =>
      c'.mapLoc Location.toCoords (fun _ => ()) = c.mapLoc b.coordsAt id ∧
        ∀ o ∈ c'.outlines, o.Settled
  | ⟨callee, params, hash⟩ => by
      rw [Call.build]
      refine ((Expression.outcome_build callee).bind fun callee' hcallee =>
        (Expression.outcome_buildAll params).bind fun params' hparams =>
          (Hash.outcome_build hash).map fun hash' hhash => ⟨?_, ?_⟩).of_iff ?_
      · rw [Call.locs, List.forall_mem_append, List.forall_mem_append, and_assoc]
      · rw [Call.mapLoc, hcallee.1, hparams.1, hhash.1, Call.mapLoc]
      · rw [Call.outlines]
        exact List.forall_mem_cons.2 ⟨hcallee.2, List.forall_mem_append.2
          ⟨hparams.2, List.forall_mem_singleton.2 hhash.2⟩⟩

theorem Hash.outcome_build : ∀ h : Hash Place Unit,
    Outcome (h.build b) (∀ place ∈ h.locs, place.Sound) fun h' =>
      h'.mapLoc Location.toCoords (fun _ => ()) = h.mapLoc b.coordsAt id ∧ h'.outline.Settled
  | ⟨pairs, place⟩ => by
      rw [Hash.build]
      refine b.outcome_over (HashPair.outcome_buildAll pairs) fun b' hb pairs' hpairs => ⟨?_, ?_⟩
      · rw [TemplateBuilder.hash, Hash.mapLoc, hb, Hash.mapLoc]
        exact congrArg (Hash.mk · _) hpairs.1
      · exact .node (b'.loc_eq_of_mem_hash pairs') hpairs.2

theorem Expression.outcome_buildAll : ∀ es : List (Expression Place Unit),
    Outcome (Expression.buildAll b es) (∀ place ∈ Expression.locsAll es, place.Sound) fun es' =>
      Expression.mapLocAll Location.toCoords (fun _ => ()) es' =
        Expression.mapLocAll b.coordsAt id es ∧ ∀ o ∈ Expression.outlines es', o.Settled
  | [] => by
      rw [Expression.buildAll]
      exact .pure nofun ⟨rfl, nofun⟩
  | e :: rest => by
      rw [Expression.buildAll]
      refine ((Expression.outcome_build e).bind fun e' he =>
        (Expression.outcome_buildAll rest).map fun rest' hrest => ⟨?_, ?_⟩).of_iff
          List.forall_mem_append
      · rw [Expression.mapLocAll, he.1, hrest.1, Expression.mapLocAll]
      · exact List.forall_mem_cons.2 ⟨he.2, hrest.2⟩

theorem HashPair.outcome_build : ∀ p : HashPair Place Unit,
    Outcome (p.build b) (∀ place ∈ p.locs, place.Sound) fun p' =>
      p'.1 = p.key ∧ p'.2.mapLoc Location.toCoords (fun _ => ()) = p.value.mapLoc b.coordsAt id ∧
        p'.2.outline.Settled
  | ⟨key, value, _⟩ => by
      rw [HashPair.build]
      exact (Expression.outcome_build value).map fun value' hvalue => ⟨rfl, hvalue⟩

/-- Which location the hash itself takes makes no difference to its pairs. -/
theorem HashPair.outcome_buildAll : ∀ ps : List (HashPair Place Unit),
    Outcome (HashPair.buildAll b ps) (∀ place ∈ HashPair.locsAll ps, place.Sound) fun ps' =>
      HashPair.mapLocAll Location.toCoords (fun _ => ()) (b.hash ps').pairs =
        HashPair.mapLocAll b.coordsAt id ps ∧
          ∀ o ∈ HashPair.outlines (b.hash ps').pairs, o.Settled
  | [] => by
      rw [HashPair.buildAll]
      exact .pure nofun ⟨rfl, nofun⟩
  | p :: rest => by
      rw [HashPair.buildAll]
      refine ((HashPair.outcome_build p).bind fun p' hp =>
        (HashPair.outcome_buildAll rest).map fun rest' hrest => ⟨?_, ?_⟩).of_iff
          List.forall_mem_append
      · obtain ⟨key, value, _⟩ := p
        obtain ⟨key', value'⟩ := p'
        obtain ⟨rfl, hvalue, -⟩ := hp
        rw [HashPair.mapLocAll, HashPair.mapLoc, ← hvalue, ← hrest.1]
        rfl
      · exact List.forall_mem_cons.2 ⟨hp.2.2, hrest.2⟩

end

theorem TextRun.outcome_build (t : TextRun Place) :
    Outcome (t.build b) t.loc.Sound fun t' =>
      t'.mapLoc Location.toCoords = t.mapLoc b.coordsAt ∧ t'.outline.Settled := by
  refine (b.outcome_movedTo t.loc).map fun b' hb => ⟨?_, Outline.settled_leaf rfl⟩
  exact congrArg (TextRun.mk t.chars) hb

theorem Comment.outcome_build (c : Comment Place) :
    Outcome (c.build b) c.loc.Sound fun c' =>
      c'.mapLoc Location.toCoords = c.mapLoc b.coordsAt ∧ c'.outline.Settled := by
  refine (b.outcome_movedTo c.loc).map fun b' hb => ⟨?_, Outline.settled_leaf rfl⟩
  exact congrArg (Comment.mk c.value) hb

theorem Mustache.outcome_build (m : Mustache Place Unit) :
    Outcome (m.build b) (∀ place ∈ m.locs, place.Sound) fun m' =>
      m'.mapLoc Location.toCoords (fun _ => ()) = m.mapLoc b.coordsAt id ∧ m'.outline.Settled := by
  refine b.outcome_over (m.call.outcome_build b) fun b' hb call hcall => ⟨?_, ?_⟩
  · rw [TemplateBuilder.mustacheNode, Mustache.mapLoc, hb, hcall.1, Mustache.mapLoc]
  · exact Outline.settled_node rfl hcall.2

theorem Modifier.outcome_build (m : Modifier Place Unit) :
    Outcome (m.build b) (∀ place ∈ m.locs, place.Sound) fun m' =>
      m'.mapLoc Location.toCoords (fun _ => ()) = m.mapLoc b.coordsAt id ∧ m'.outline.Settled := by
  refine b.outcome_over (m.call.outcome_build b) fun b' hb call hcall => ⟨?_, ?_⟩
  · rw [TemplateBuilder.modifier, Modifier.mapLoc, hb, hcall.1, Modifier.mapLoc]
  · exact Outline.settled_node rfl hcall.2

theorem ConcatPart.outcome_build (part : ConcatPart Place Unit) :
    Outcome (part.build b) (∀ place ∈ part.locs, place.Sound) fun part' =>
      part'.mapLoc Location.toCoords (fun _ => ()) = part.mapLoc b.coordsAt id ∧
        part'.outline.Settled := by
  cases part with
  | text t =>
      refine ((t.outcome_build b).map fun t' ht => ⟨?_, ht.2⟩).of_iff List.forall_mem_singleton
      exact congrArg ConcatPart.text ht.1
  | mustache m =>
      exact (m.outcome_build b).map fun m' hm => ⟨congrArg ConcatPart.mustache hm.1, hm.2⟩

theorem AttributeValue.outcome_build (value : AttributeValue Place Unit) :
    Outcome (value.build b) (∀ place ∈ value.locs, place.Sound) fun value' =>
      value'.mapLoc Location.toCoords (fun _ => ()) = value.mapLoc b.coordsAt id ∧
        ∀ o ∈ value'.outlines, o.Settled := by
  cases value with
  | text t =>
      refine ((t.outcome_build b).map fun t' ht => ⟨?_, ?_⟩).of_iff List.forall_mem_singleton
      · exact congrArg AttributeValue.text ht.1
      · exact List.forall_mem_singleton.2 ht.2
  | mustache m =>
      refine (m.outcome_build b).map fun m' hm => ⟨?_, ?_⟩
      · exact congrArg AttributeValue.mustache hm.1
      · exact List.forall_mem_singleton.2 hm.2
  | concat parts place =>
      have hparts := (Outcome.mapM (ConcatPart.outcome_build b) parts).of_iff
        List.forall_mem_flatMap
      refine b.outcome_over hparts fun b' hb parts' hparts => ⟨?_, ?_⟩
      · rw [TemplateBuilder.concat, AttributeValue.mapLoc, hparts.1, hb, AttributeValue.mapLoc]
      · exact List.forall_mem_map.2 hparts.2

theorem Attribute.outcome_build (a : Attribute Place Unit) :
    Outcome (a.build b) (∀ place ∈ a.locs, place.Sound) fun a' =>
      a'.mapLoc Location.toCoords (fun _ => ()) = a.mapLoc b.coordsAt id ∧ a'.outline.Settled := by
  refine b.outcome_over (a.value.outcome_build b) fun b' hb value hvalue => ⟨?_, ?_⟩
  · rw [TemplateBuilder.attr, Attribute.mapLoc, hb, hvalue.1, Attribute.mapLoc]
  · exact Outline.settled_node rfl hvalue.2

mutual

theorem Statement.outcome_build : ∀ s : Statement Place Unit,
    Outcome (s.build b) (∀ place ∈ s.locs, place.Sound) fun s' =>
      s'.mapLoc Location.toCoords (fun _ => ()) = s.mapLoc b.coordsAt id ∧ s'.outline.Settled
  | .mustache ⟨call, trusting, place⟩ => by
      rw [Statement.build]
      refine b.outcome_over (call.outcome_build b) fun b' hb call' hcall => ⟨?_, ?_⟩
      · rw [b'.ite_tripleCurly, Statement.mapLoc, Mustache.mapLoc, hcall.1, hb, Statement.mapLoc,
          Mustache.mapLoc]
      · rw [b'.ite_tripleCurly]
        exact Outline.settled_over rfl (Outline.settled_node rfl hcall.2)
  | .block s => by
      rw [Statement.build]
      exact BlockStatement.outcome_build s
  | .element e => by
      rw [Statement.build]
      exact Element.outcome_build e
  | .text ⟨chars, place⟩ => by
      rw [Statement.build]
      refine b.outcome_leaf fun b' hb => ⟨?_, ?_⟩
      · exact congrArg (Statement.text ⟨chars, ·⟩) hb
      · exact Outline.settled_over rfl (Outline.settled_leaf rfl)
  | .mustacheComment ⟨value, place⟩ => by
      rw [Statement.build]
      refine b.outcome_leaf fun b' hb => ⟨?_, ?_⟩
      · exact congrArg (Statement.mustacheComment ⟨value, ·⟩) hb
      · exact Outline.settled_over rfl (Outline.settled_leaf rfl)
  | .comment ⟨value, place⟩ => by
      rw [Statement.build]
      refine b.outcome_leaf fun b' hb => ⟨?_, ?_⟩
      · exact congrArg (Statement.comment ⟨value, ·⟩) hb
      · exact Outline.settled_over rfl (Outline.settled_leaf rfl)

theorem BlockStatement.outcome_build : ∀ s : BlockStatement Place Unit,
    Outcome (s.build b) (∀ place ∈ s.locs, place.Sound) fun s' =>
      s'.mapLoc Location.toCoords (fun _ => ()) = .block (s.mapLoc b.coordsAt id) ∧
        s'.outline.Settled
  | ⟨call, program, none, place⟩ => by
      rw [BlockStatement.build]
      refine ((b.outcome_movedTo place).bind fun b' hb =>
        (call.outcome_build b).bind fun call' hcall =>
          (Block.outcome_build program).map fun program' hprogram => ⟨?_, ?_⟩).of_iff ?_
      · rw [BlockStatement.locs, List.forall_mem_cons, List.forall_mem_append]
      · rw [TemplateBuilder.blockStatement, Statement.mapLoc, BlockStatement.mapLoc, hcall.1,
          hprogram.1, hb, BlockStatement.mapLoc]
      · exact Outline.settled_over rfl (Outline.settled_node rfl (List.forall_mem_append.2
          ⟨hcall.2, List.forall_mem_singleton.2 hprogram.2⟩))
  | ⟨call, program, some inverse, place⟩ => by
      rw [BlockStatement.build]
      refine ((b.outcome_movedTo place).bind fun b' hb =>
        (call.outcome_build b).bind fun call' hcall =>
          (Block.outcome_build program).bind fun program' hprogram =>
            (Block.outcome_build inverse).map fun inverse' hinverse => ⟨?_, ?_⟩).of_iff ?_
      · rw [BlockStatement.locs, List.forall_mem_cons, List.forall_mem_append,
          List.forall_mem_append, and_assoc]
      · rw [TemplateBuilder.blockStatement, Statement.mapLoc, BlockStatement.mapLoc, hcall.1,
          hprogram.1, hinverse.1, hb, BlockStatement.mapLoc]
      · exact Outline.settled_over rfl (Outline.settled_node rfl (List.forall_mem_append.2
          ⟨hcall.2, List.forall_mem_cons.2
            ⟨hprogram.2, List.forall_mem_singleton.2 hinverse.2⟩⟩))

theorem Block.outcome_build : ∀ s : Block Place Unit,
    Outcome (s.build b) (∀ place ∈ s.locs, place.Sound) fun s' =>
      s'.mapLoc Location.toCoords (fun _ => ()) = s.mapLoc b.coordsAt id ∧ s'.outline.Settled
  | ⟨blockParams, body, place⟩ => by
      rw [Block.build]
      refine b.outcome_over (Statement.outcome_buildAll body) fun b' hb body' hbody => ⟨?_, ?_⟩
      · rw [TemplateBuilder.block, Block.mapLoc, hbody.1, hb, Block.mapLoc]
      · exact Outline.settled_node rfl hbody.2

theorem Element.outcome_build : ∀ e : Element Place Unit,
    Outcome (e.build b) (∀ place ∈ e.locs, place.Sound) fun s' =>
      s'.mapLoc Location.toCoords (fun _ => ()) = .element (e.mapLoc b.coordsAt id) ∧
        s'.outline.Settled
  | ⟨tag, attributes, blockParams, modifiers, comments, children, selfClosing, place⟩ => by
      rw [Element.build]
      refine ((b.outcome_movedTo place).bind fun b' hb =>
        (Outcome.mapM (Attribute.outcome_build b) attributes).bind fun attributes' hattributes =>
          (Outcome.mapM (Modifier.outcome_build b) modifiers).bind fun modifiers' hmodifiers =>
            (Outcome.mapM (Comment.outcome_build b) comments).bind fun comments' hcomments =>
              (Statement.outcome_buildAll children).map fun children' hchildren =>
                ⟨?_, ?_⟩).of_iff ?_
      · rw [Element.locs, List.map_eq_flatMap, List.forall_mem_cons, List.forall_mem_append,
          List.forall_mem_append, List.forall_mem_append, List.forall_mem_flatMap,
          List.forall_mem_flatMap, List.forall_mem_flatMap, and_assoc, and_assoc]
        simp only [List.forall_mem_singleton]
      · rw [b'.element_inTurn, Statement.mapLoc, Element.mapLoc, hattributes.1, hmodifiers.1,
          hcomments.1, hchildren.1, hb, Element.mapLoc]
      · rw [b'.element_inTurn]
        refine Outline.settled_over rfl (Outline.settled_node rfl ?_)
        refine List.forall_mem_append.2 ⟨List.forall_mem_map.2 hattributes.2,
          List.forall_mem_append.2 ⟨List.forall_mem_map.2 hmodifiers.2,
            List.forall_mem_cons.2 ⟨?_, List.forall_mem_map.2 hcomments.2⟩⟩⟩
        exact Outline.settled_node rfl hchildren.2

theorem Statement.outcome_buildAll : ∀ ss : List (Statement Place Unit),
    Outcome (Statement.buildAll b ss) (∀ place ∈ Statement.locsAll ss, place.Sound) fun ss' =>
      Statement.mapLocAll Location.toCoords (fun _ => ()) ss' =
        Statement.mapLocAll b.coordsAt id ss ∧ ∀ o ∈ Statement.outlines ss', o.Settled
  | [] => by
      rw [Statement.buildAll]
      exact .pure nofun ⟨rfl, nofun⟩
  | s :: rest => by
      rw [Statement.buildAll]
      refine ((Statement.outcome_build s).bind fun s' hs =>
        (Statement.outcome_buildAll rest).map fun rest' hrest => ⟨?_, ?_⟩).of_iff
          List.forall_mem_append
      · rw [Statement.mapLocAll, hs.1, hrest.1, Statement.mapLocAll]
      · exact List.forall_mem_cons.2 ⟨hs.2, hrest.2⟩

end

/-- Every place that a description gives decides alone whether it is refused. -/
theorem Template.outcome_build (t : Template Place Unit) :
    Outcome (t.build b) (∀ place ∈ t.locs, place.Sound) fun t' =>
      t'.mapLoc Location.toCoords (fun _ => ()) = t.mapLoc b.coordsAt id ∧ t'.outline.Settled := by
  refine b.outcome_over (Statement.outcome_buildAll b t.body) fun b' hb body hbody => ⟨?_, ?_⟩
  · rw [TemplateBuilder.template, Template.mapLoc, hbody.1, hb, Template.mapLoc]
  · exact Outline.settled_node rfl hbody.2

end Build

/-! ## Templates -/

theorem Position.not_le_iff {p q : Position} : ¬ p ≤ q ↔ q < p := by
  rw [le_iff, lt_iff]
  omega

/-- A described template is refused just if some place in it ends before it starts, at whatever
depth. Otherwise no location in the template that is built does. Every node has the very place that
was described for it, and a synthetic location if none was, and every hash pair stands where its
value does. -/
theorem Template.build_as_described (d : Template Place Unit) :
    (d.build .new = .error .endsBeforeStart ↔ ∃ c, some c ∈ d.locs ∧ c.stop < c.start) ∧
      ((∃ t, d.build .new = .ok t) ↔ ∀ c, some c ∈ d.locs → c.start ≤ c.stop) ∧
      ∀ t, d.build .new = .ok t →
        (∀ l ∈ t.locs ++ t.hashPairs.map HashPair.loc, l.start ≤ l.stop) ∧
          t.mapLoc Location.toCoords (fun _ => ()) =
            d.mapLoc (·.getD Location.synthetic.toCoords) id ∧
          ∀ pair ∈ t.hashPairs, pair.loc = pair.value.loc := by
  have houtcome := d.outcome_build .new
  have hall : (∀ place ∈ d.locs, place.Sound) ↔ ∀ c, some c ∈ d.locs → c.start ≤ c.stop :=
    ⟨fun h c hc => h (some c) hc c rfl, fun h place hplace c hc => h c (hc ▸ hplace)⟩
  have hsome : (∃ c, some c ∈ d.locs ∧ c.stop < c.start) ↔ ¬ ∀ place ∈ d.locs, place.Sound := by
    simp only [hall, Classical.not_forall, Position.not_le_iff, exists_prop]
  rw [hsome, ← hall]
  refine ⟨⟨fun hrefused hsound => ?_, fun hnot => ?_⟩, ⟨fun ⟨t, hok⟩ => ?_, fun hsound => ?_⟩,
    fun t hok => ?_⟩
  · obtain ⟨t, hok, -⟩ := houtcome.ok hsound
    cases hrefused.symm.trans hok
  · obtain ⟨⟨⟩, hrefused⟩ := houtcome.error hnot
    exact hrefused
  · refine Classical.byContradiction fun hnot => ?_
    obtain ⟨e, hrefused⟩ := houtcome.error hnot
    cases hok.symm.trans hrefused
  · obtain ⟨t, hok, -⟩ := houtcome.ok hsound
    exact ⟨t, hok⟩
  · obtain ⟨hcoords, hsettled⟩ := houtcome.good_of_ok hok
    exact ⟨fun l _ => l.start_le_stop, hcoords, hsettled.loc_eq⟩

/-- In `{{a b=c}}` the value of `b` may end in an earlier column of a later line. Its pair is put
there too, and not where the hash is. If it ends earlier on one line the template is refused. -/
example :
    let d (stopLine : Nat) : Template Place Unit :=
      ⟨[], [.mustache ⟨⟨.path ⟨.var "a", []⟩ none, [],
        ⟨[⟨"b", .path ⟨.var "c", []⟩ (some ⟨1, 6, stopLine, 5⟩), ()⟩], none⟩⟩, false, none⟩], none⟩
    ((d 2).build .new).toOption.map (·.hashPairs.map HashPair.loc) =
        some [⟨⟨1, 6⟩, ⟨2, 5⟩, by decide⟩] ∧
      (d 1).build .new = .error .endsBeforeStart :=
  ⟨rfl, rfl⟩

end TemplateScope
