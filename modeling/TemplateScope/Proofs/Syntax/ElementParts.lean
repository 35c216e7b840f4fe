import TemplateScope.Syntax.ElementBuilder

/-!
# The parts of an element, kind by kind

A step adds its parts behind those of the same kind and leaves the other kinds alone. So each list
of the element that is built is what the steps of one kind supply in turn, and how the kinds are
interleaved leaves no trace (`ofSteps_collects`).
-/

namespace TemplateScope

variable {ℓ : Type}

/-- What an element has lists of. A single child and several are parts of one kind. -/
inductive PartKind where
  | attribute
  | blockParam
  | modifier
  | comment
  | child
deriving DecidableEq

def PartKind.Part (ℓ : Type) : PartKind → Type
  | .attribute => Attribute ℓ
  | .blockParam => String
  | .modifier => Modifier ℓ
  | .comment => Comment ℓ
  | .child => Statement ℓ

namespace ElementStep

/-- The kind of the parts that a step supplies. The step that closes the element supplies none. -/
def kind : ElementStep ℓ → Option PartKind
  | .attr _ => some .attribute
  | .blockParams _ => some .blockParam
  | .modifier _ => some .modifier
  | .comment _ => some .comment
  | .child _ | .children _ => some .child
  | .selfClosing => none

def parts : (k : PartKind) → ElementStep ℓ → List (k.Part ℓ)
  | .attribute, .attr a => [a]
  | .blockParam, .blockParams names => names
  | .modifier, .modifier m => [m]
  | .comment, .comment c => [c]
  | .child, .child s => [s]
  | .child, .children ss => ss
  | _, _ => []

theorem parts_eq_nil {k : PartKind} {step : ElementStep ℓ} (h : step.kind ≠ some k) :
    step.parts k = [] := by
  cases k <;> cases step <;> first | rfl | exact absurd rfl h

theorem flatMap_parts_filter (k : PartKind) (steps : List (ElementStep ℓ)) :
    (steps.filter (·.kind = some k)).flatMap (parts k) = steps.flatMap (parts k) := by
  induction steps with
  | nil => rfl
  | cons step steps ih =>
      by_cases h : step.kind = some k
      · rw [List.filter_cons_of_pos (by simpa using h), List.flatMap_cons, List.flatMap_cons, ih]
      · rw [List.filter_cons_of_neg (by simpa using h), List.flatMap_cons, parts_eq_nil h,
          List.nil_append, ih]

theorem selfClosing_mem_filter_iff {steps : List (ElementStep ℓ)} :
    .selfClosing ∈ steps.filter (·.kind = none) ↔ .selfClosing ∈ steps := by
  simp [List.mem_filter, kind]

end ElementStep

namespace Element

def parts (e : Element ℓ) : (k : PartKind) → List (k.Part ℓ)
  | .attribute => e.attributes
  | .blockParam => e.blockParams
  | .modifier => e.modifiers
  | .comment => e.comments
  | .child => e.children

theorem ext_parts {e e' : Element ℓ} (htag : e.tag = e'.tag) (hloc : e.loc = e'.loc)
    (hparts : ∀ k, e.parts k = e'.parts k) (hclosing : e.selfClosing = e'.selfClosing) :
    e = e' := by
  have hattributes : e.attributes = e'.attributes := hparts .attribute
  have hblockParams : e.blockParams = e'.blockParams := hparts .blockParam
  have hmodifiers : e.modifiers = e'.modifiers := hparts .modifier
  have hcomments : e.comments = e'.comments := hparts .comment
  have hchildren : e.children = e'.children := hparts .child
  cases e
  cases e'
  simp_all

/-! ## One step -/

theorem extend_tag (e : Element ℓ) (step : ElementStep ℓ) : (e.extend step).tag = e.tag := by
  cases step <;> rfl

theorem extend_loc (e : Element ℓ) (step : ElementStep ℓ) : (e.extend step).loc = e.loc := by
  cases step <;> rfl

/-- A step adds at the end of the list of its own kind, and to no other. -/
theorem extend_parts (e : Element ℓ) (step : ElementStep ℓ) (k : PartKind) :
    (e.extend step).parts k = e.parts k ++ step.parts k := by
  by_cases h : step.kind = some k
  · cases step <;> cases h <;> rfl
  · rw [ElementStep.parts_eq_nil h, List.append_nil]
    cases k <;> cases step <;> first | rfl | exact absurd rfl h

theorem extend_selfClosing_iff (e : Element ℓ) (step : ElementStep ℓ) :
    (e.extend step).selfClosing = true ↔ e.selfClosing = true ∨ step = .selfClosing := by
  cases step <;> simp [extend]

/-! ## Several steps -/

section Foldl

variable (steps : List (ElementStep ℓ)) (e : Element ℓ)

theorem foldl_extend_kept {α : Type} {read : Element ℓ → α}
    (h : ∀ (e : Element ℓ) step, read (e.extend step) = read e) :
    read (steps.foldl extend e) = read e := by
  induction steps generalizing e with
  | nil => rfl
  | cons step steps ih => rw [List.foldl_cons, ih, h]

theorem foldl_extend_parts (k : PartKind) :
    (steps.foldl extend e).parts k = e.parts k ++ steps.flatMap (ElementStep.parts k) := by
  induction steps generalizing e with
  | nil => exact (List.append_nil _).symm
  | cons step steps ih =>
      rw [List.foldl_cons, ih, extend_parts, List.flatMap_cons, List.append_assoc]

theorem foldl_extend_selfClosing_iff :
    (steps.foldl extend e).selfClosing = true ↔ e.selfClosing = true ∨ .selfClosing ∈ steps := by
  induction steps generalizing e with
  | nil => simp
  | cons step steps ih =>
      rw [List.foldl_cons, ih, extend_selfClosing_iff, or_assoc, List.mem_cons,
        eq_comm (a := step)]

end Foldl

/-! ## The element that is built -/

section OfSteps

variable (tag : String) (loc : ℓ) (steps : List (ElementStep ℓ))

theorem parts_bare (k : PartKind) : (bare tag loc).parts k = [] := by
  cases k <;> rfl

theorem tag_ofSteps : (ofSteps tag loc steps).tag = tag :=
  foldl_extend_kept steps _ extend_tag

theorem loc_ofSteps : (ofSteps tag loc steps).loc = loc :=
  foldl_extend_kept steps _ extend_loc

theorem parts_ofSteps (k : PartKind) :
    (ofSteps tag loc steps).parts k = steps.flatMap (ElementStep.parts k) := by
  rw [ofSteps, foldl_extend_parts, parts_bare, List.nil_append]

theorem selfClosing_ofSteps_iff :
    (ofSteps tag loc steps).selfClosing = true ↔ .selfClosing ∈ steps := by
  rw [ofSteps, foldl_extend_selfClosing_iff]
  exact or_iff_right Bool.false_ne_true

/-- Nothing else about the steps can be told from the element. -/
theorem ofSteps_eq_iff {steps' : List (ElementStep ℓ)} :
    ofSteps tag loc steps = ofSteps tag loc steps' ↔
      (∀ k, steps.flatMap (ElementStep.parts k) = steps'.flatMap (ElementStep.parts k)) ∧
        (.selfClosing ∈ steps ↔ .selfClosing ∈ steps') := by
  simp only [← parts_ofSteps tag loc, ← selfClosing_ofSteps_iff tag loc]
  constructor
  · intro h
    rw [h]
    exact ⟨fun _ => rfl, Iff.rfl⟩
  · rintro ⟨hparts, hclosing⟩
    refine ext_parts ?_ ?_ hparts (Bool.eq_iff_iff.2 hclosing)
    · rw [tag_ofSteps, tag_ofSteps]
    · rw [loc_ofSteps, loc_ofSteps]

/-- Children given one at a time and at once, and an element closed twice. -/
example (a : Attribute Unit) (s s' s'' : Statement Unit) :
    ofSteps "p" () [.selfClosing, .child s, .attr a, .children [s', s''], .selfClosing] =
      ofSteps "p" () [.attr a, .children [s, s'], .child s'', .selfClosing] :=
  rfl

/-- The element has the tag and the place it was begun with. Of each kind it has what the steps of
that kind supply, in their order, and it closes itself just if some step says so. Steps that agree
kind by kind therefore give the same element. -/
theorem ofSteps_collects :
    (ofSteps tag loc steps).tag = tag ∧ (ofSteps tag loc steps).loc = loc ∧
      (∀ k, (ofSteps tag loc steps).parts k =
        (steps.filter (·.kind = some k)).flatMap (ElementStep.parts k)) ∧
      ((ofSteps tag loc steps).selfClosing = true ↔ .selfClosing ∈ steps) ∧
      ∀ steps', (∀ kind, steps.filter (·.kind = kind) = steps'.filter (·.kind = kind)) →
        ofSteps tag loc steps = ofSteps tag loc steps' := by
  refine ⟨tag_ofSteps tag loc steps, loc_ofSteps tag loc steps, fun k => ?_,
    selfClosing_ofSteps_iff tag loc steps, fun steps' h => ?_⟩
  · rw [parts_ofSteps, ElementStep.flatMap_parts_filter]
  · refine (ofSteps_eq_iff tag loc steps).2 ⟨fun k => ?_, ?_⟩
    · rw [← ElementStep.flatMap_parts_filter, h (some k), ElementStep.flatMap_parts_filter]
    · rw [← ElementStep.selfClosing_mem_filter_iff, h none,
        ElementStep.selfClosing_mem_filter_iff]

end OfSteps

end Element

end TemplateScope
