import TemplateScope.Proofs.Shadowing.Locality
import TemplateScope.Proofs.Syntax.Edits

/-!
# What the check does not read

An edit leaves every invocation as it is, with the names around it: none is lost, none is added, and
each keeps its name, its role and its place (`Template.Edit.invocations`). So the check comes to the
same result before and after any number of edits (`check_of_edits`).
-/

namespace TemplateScope

variable {ℓ : Type}

/-- What is collected from a list entry by entry stays the same, if edits of entries do not change
it and silent entries have no part in it. -/
theorem EditIn.flatMap_eq {α β : Type} {edit : α → α → Prop} {silent : α → Prop} {f : α → List β}
    (hedit : ∀ x x', edit x x' → f x = f x') (hsilent : ∀ x, silent x → f x = []) {xs ys : List α}
    (h : EditIn edit silent xs ys) : xs.flatMap f = ys.flatMap f := by
  induction h with
  | entry rest hx => rw [List.flatMap_cons, List.flatMap_cons, hedit _ _ hx]
  | insert rest hx => rw [List.flatMap_cons, hsilent _ hx, List.nil_append]
  | later x _ ih => rw [List.flatMap_cons, List.flatMap_cons, ih]

/-! ## Expressions and calls -/

theorem Path.Edit.headName?_eq {p p' : Path} (h : p.Edit p') : p.headName? = p'.headName? := by
  cases h with
  | tail head tail tail' => rfl
  | sigil name tail => rfl

theorem Expression.Exchangeable.invocations_eq_nil {checked : Bool} {e : Expression ℓ}
    (h : e.Exchangeable checked) (visible : List String) : e.invocations visible = [] := by
  cases h with
  | literal value loc => rfl
  | path loc hpath => rfl

/-- In the place of a checked callee, nothing that may be exchanged has a name. -/
theorem Expression.Exchangeable.headName?_eq_none {e : Expression ℓ} (h : e.Exchangeable true) :
    e.headName? = none := by
  cases h with
  | literal value loc => rfl
  | path loc hpath =>
      rw [Expression.headName?, Expression.path?, Option.bind_some, Path.headName?, hpath rfl]
      rfl

theorem Expression.Edit.headName?_eq {e e' : Expression ℓ} (h : Expression.Edit true e e') :
    e.headName? = e'.headName? := by
  cases h with
  | exchange he he' => rw [he.headName?_eq_none, he'.headName?_eq_none]
  | path loc hp => exact hp.headName?_eq
  | place p loc loc' => rfl
  | call loc hc => rfl

theorem Call.Edit.headName?_eq {c c' : Call ℓ} (h : Call.Edit true c c') :
    c.callee.headName? = c'.callee.headName? := by
  cases h with
  | callee params hash he => exact he.headName?_eq
  | _ => rfl

theorem Call.Edit.hasArguments_eq {checked : Bool} {c c' : Call ℓ} (h : Call.Edit checked c c') :
    c.hasArguments = c'.hasArguments := by
  cases h with
  | callee params hash he => rfl
  | params callee hash hparams => cases hparams <;> rfl
  | pairs callee params loc hpairs => cases hpairs <;> rfl
  | hashPlace callee params pairs loc loc' => rfl

mutual

theorem Expression.Edit.invocations_eq {checked : Bool} {e e' : Expression ℓ}
    (h : Expression.Edit checked e e') (visible : List String) :
    e.invocations visible = e'.invocations visible := by
  cases h with
  | exchange he he' => rw [he.invocations_eq_nil, he'.invocations_eq_nil]
  | path loc hp => rfl
  | place p loc loc' => rfl
  | call loc hc =>
      rw [Expression.invocations, Expression.invocations, hc.headName?_eq,
        hc.invocations_eq visible]

theorem Call.Edit.invocations_eq {checked : Bool} {c c' : Call ℓ} (h : Call.Edit checked c c')
    (visible : List String) : c.invocations visible = c'.invocations visible := by
  cases h with
  | callee params hash he => rw [Call.invocations, Call.invocations, he.invocations_eq visible]
  | params callee hash hparams =>
      rw [Call.invocations, Call.invocations, hparams.invocationsAll_eq visible]
  | pairs callee params loc hpairs =>
      rw [Call.invocations, Call.invocations, Hash.invocations, Hash.invocations,
        hpairs.invocationsAll_eq visible]
  | hashPlace callee params pairs loc loc' => rfl

theorem Expression.EditOne.invocationsAll_eq {es es' : List (Expression ℓ)}
    (h : Expression.EditOne es es') (visible : List String) :
    Expression.invocationsAll visible es = Expression.invocationsAll visible es' := by
  cases h with
  | entry rest he =>
      rw [Expression.invocationsAll, Expression.invocationsAll, he.invocations_eq visible]
  | later e hrest =>
      rw [Expression.invocationsAll, Expression.invocationsAll, hrest.invocationsAll_eq visible]

theorem HashPair.EditOne.invocationsAll_eq {ps ps' : List (HashPair ℓ)}
    (h : HashPair.EditOne ps ps') (visible : List String) :
    HashPair.invocationsAll visible ps = HashPair.invocationsAll visible ps' := by
  cases h with
  | key p | place p => cases p; rfl
  | value key loc rest he =>
      rw [HashPair.invocationsAll, HashPair.invocationsAll, he.invocations_eq visible]
  | later p hrest =>
      cases p
      rw [HashPair.invocationsAll, HashPair.invocationsAll, hrest.invocationsAll_eq visible]

end

/-- With arguments the callee keeps its name, and without them it is not looked up. -/
theorem Mustache.Edit.invocations_eq {m m' : Mustache ℓ} (h : m.Edit m') (visible : List String) :
    m.invocations visible = m'.invocations visible := by
  cases h with
  | @call c c' trusting loc hc =>
      rw [Mustache.invocations, Mustache.invocations, ← hc.hasArguments_eq,
        hc.invocations_eq visible]
      by_cases hargs : c.hasArguments
      · rw [hargs] at hc
        rw [if_pos hargs, if_pos hargs, hc.headName?_eq]
      · rw [if_neg hargs, if_neg hargs]
  | trusting c trusting trusting' loc => rfl
  | place trusting loc loc' hargs =>
      rw [Mustache.invocations, Mustache.invocations, if_neg (by simp [hargs]),
        if_neg (by simp [hargs])]

theorem Modifier.Edit.invocations_eq {m m' : Modifier ℓ} (h : m.Edit m') (visible : List String) :
    m.invocations visible = m'.invocations visible := by
  cases h with
  | call loc hc =>
      rw [Modifier.invocations, Modifier.invocations, hc.headName?_eq, hc.invocations_eq visible]

/-! ## Attributes -/

theorem ConcatPart.Edit.invocations_eq {part part' : ConcatPart ℓ} (h : part.Edit part')
    (visible : List String) : part.invocations visible = part'.invocations visible := by
  cases h with
  | text t t' => rfl
  | mustache hm => exact hm.invocations_eq visible

theorem ConcatPart.Silent.invocations_eq_nil {part : ConcatPart ℓ} (h : part.Silent)
    (visible : List String) : part.invocations visible = [] := by
  cases h with
  | text t => rfl

theorem AttributeValue.Edit.invocations_eq {value value' : AttributeValue ℓ}
    (h : value.Edit value') (visible : List String) :
    value.invocations visible = value'.invocations visible := by
  cases h with
  | text t t' => rfl
  | mustache hm => exact hm.invocations_eq visible
  | parts loc hparts =>
      exact hparts.flatMap_eq (fun _ _ hpart => hpart.invocations_eq visible)
        (fun _ hpart => hpart.invocations_eq_nil visible)
  | place parts loc loc' => rfl

theorem Attribute.Edit.invocations_eq {a a' : Attribute ℓ} (h : a.Edit a')
    (visible : List String) : a.invocations visible = a'.invocations visible := by
  cases h with
  | name name => rfl
  | value hvalue => exact hvalue.invocations_eq visible
  | place loc => rfl

theorem Attribute.Silent.invocations_eq_nil {a : Attribute ℓ} (h : a.Silent)
    (visible : List String) : a.invocations visible = [] := by
  cases h with
  | text name t loc => rfl

/-! ## Statements -/

theorem Statement.Silent.invocations_eq_nil {s : Statement ℓ} (h : s.Silent)
    (visible : List String) : s.invocations visible = [] := by
  cases h <;> rfl

theorem Element.invocations_eq (e : Element ℓ) (visible : List String) :
    e.invocations visible =
      e.attributes.flatMap (·.invocations visible) ++
        (e.modifiers.flatMap (·.invocations visible) ++
          Statement.invocationsAll (e.blockParams ++ visible) e.children) := by
  cases e
  rfl

theorem Statement.Edit.invocations_eq {s s' : Statement ℓ} (h : s.Edit s')
    (visible : List String) : s.invocations visible = s'.invocations visible := by
  cases h with
  | mustache hm => exact hm.invocations_eq visible
  | blockCall b hcall =>
      obtain ⟨call, program, _ | inverse, loc⟩ := b
      · rw [Statement.invocations, Statement.invocations, BlockStatement.invocations,
          BlockStatement.invocations, hcall.invocations_eq visible]
      · rw [Statement.invocations, Statement.invocations, BlockStatement.invocations,
          BlockStatement.invocations, hcall.invocations_eq visible]
  | blockPlace b loc => obtain ⟨call, program, _ | inverse, place⟩ := b <;> rfl
  | programPlace b loc => obtain ⟨call, ⟨names, body, _⟩, _ | inverse, place⟩ := b <;> rfl
  | attributes e hattributes =>
      rw [Statement.invocations, Statement.invocations, Element.invocations_eq,
        Element.invocations_eq, hattributes.flatMap_eq (fun _ _ ha => ha.invocations_eq visible)
          (fun _ ha => ha.invocations_eq_nil visible)]
  | modifiers e hmodifiers =>
      rw [Statement.invocations, Statement.invocations, Element.invocations_eq,
        Element.invocations_eq,
        hmodifiers.flatMap_eq (fun _ _ hm => hm.invocations_eq visible) nofun]
  | tag e | comments e | selfClosing e | elementPlace e => cases e; rfl
  | text | mustacheComment | comment => rfl
  | inversePlace call program inverse => cases inverse; rfl

theorem Statement.invocationsAll_eq_flatMap (visible : List String) (ss : List (Statement ℓ)) :
    Statement.invocationsAll visible ss = ss.flatMap (·.invocations visible) := by
  induction ss with
  | nil => rfl
  | cons s rest ih => rw [Statement.invocationsAll, ih, List.flatMap_cons]

/-! ## Templates -/

/-- An edit leaves every invocation where it is, with the names that are bound around it. -/
theorem Template.Edit.invocations_eq {t t' : Template ℓ} (h : t.Edit t') :
    t.invocations = t'.invocations := by
  cases h with
  | place t loc => rfl
  | @inside c names body body' hbody =>
      have hregion : c.region names body = c.region names body' := by
        rw [Surroundings.region, Surroundings.region, Statement.invocationsAll_eq_flatMap,
          Statement.invocationsAll_eq_flatMap]
        exact hbody.flatMap_eq (fun _ _ hs => hs.invocations_eq _)
          (fun _ hs => hs.invocations_eq_nil _)
      rw [Surroundings.invocations_fill, Surroundings.invocations_fill, hregion]

theorem Template.Edits.invocations_eq {t t' : Template ℓ} (h : t.Edits t') :
    t.invocations = t'.invocations := by
  induction h with
  | refl => rfl
  | tail _ hstep ih =>
      rcases hstep with hedit | hedit
      · exact ih.trans hedit.invocations_eq
      · exact ih.trans hedit.invocations_eq.symm

namespace Shadowing

/-- However a template is edited, its check comes to the same result. -/
theorem check_of_edits {t t' : Template Location} (h : t.Edits t') (env : Environment) :
    check env t = check env t' := by
  have hconflicts : t.conflicts env = t'.conflicts env := by
    rw [Template.conflicts, Template.conflicts, h.invocations_eq]
  exact check_congr hconflicts

def sampleAround (tag : String) : Surroundings Location :=
  .inside (.root .synthetic) ["item"] []
    (.childrenOf tag [] sampleElement.modifiers [] false .synthetic) []

def sampleChildren (head : PathHead) (argument : Expression Location) :
    List (Statement Location) :=
  [.mustache ⟨⟨.path ⟨head, []⟩ .synthetic, [argument], ⟨[], .synthetic⟩⟩, false, .synthetic⟩,
    .mustache ⟨Call.ofName "row", false, .synthetic⟩]

/-- `<Rows {{row null}} as |row item|>rows{{@item row}}{{row null}}</Rows>`. -/
def sampleEdited : Template Location :=
  (sampleAround "Rows").fill ["row", "item"]
    (.text ⟨"rows", .synthetic⟩ ::
      sampleChildren (.argument "item") (.path ⟨.var "row", []⟩ .synthetic))

/-- With another tag, a text in front of its children and another argument, the sample is still
rejected for `item`, and so it is if that name is read as the name of an argument. -/
theorem check_of_edits_sample :
    sampleTemplate.Edits sampleEdited ∧
      check sampleEnvironment sampleEdited = .error ⟨"item", .helper, .synthetic, none, ""⟩ := by
  have htag : sampleTemplate.Edit ((sampleAround "Rows").fill ["row", "item"]
      (sampleChildren (.var "item") (.literal .null .synthetic))) :=
    .inside (.root Location.synthetic) ["item"] (.entry [] (.tag sampleElement "Rows"))
  have htext : Template.Edit _ ((sampleAround "Rows").fill ["row", "item"] _) :=
    .inside _ _ (.insert (sampleChildren (.var "item") (.literal .null .synthetic))
      (.text ⟨"rows", .synthetic⟩))
  have hnull : Expression.Exchangeable false (.literal .null Location.synthetic) :=
    .literal _ _
  have hrow : Expression.Exchangeable false (.path ⟨.var "row", []⟩ Location.synthetic) :=
    .path _ nofun
  have hargument : Template.Edit _ ((sampleAround "Rows").fill ["row", "item"]
      (.text ⟨"rows", .synthetic⟩ ::
        sampleChildren (.var "item") (.path ⟨.var "row", []⟩ .synthetic))) :=
    .inside _ _ (.later _ (.entry _ (.mustache (.call _ _ (.params _ _ (.entry _
      (.exchange hnull hrow)))))))
  have hsign : Template.Edit _ sampleEdited :=
    .inside _ _ (.later _ (.entry _ (.mustache (.call _ _ (.callee _ _
      (.path _ (.sigil "item" [])))))))
  have hedits : sampleTemplate.Edits sampleEdited :=
    Relation.ReflTransGen.refl.tail (.inl htag) |>.tail (.inl htext) |>.tail (.inl hargument)
      |>.tail (.inl hsign)
  exact ⟨hedits, (check_of_edits hedits sampleEnvironment).symm⟩

end Shadowing

end TemplateScope
