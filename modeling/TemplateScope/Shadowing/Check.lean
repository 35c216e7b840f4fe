import TemplateScope.Scope.Tracker
import TemplateScope.Shadowing.Conflict
import TemplateScope.Shadowing.Environment
import TemplateScope.Walk.Closure

/-!
# The shadowing check

A bare name in callee position invokes a helper or a modifier, unless an enclosing block param has
the same name: then the invocation silently means something else. `check` reports the first such
invocation in document order.

The check is a visitor over a scope tracker. Every frame that it opens it closes again, whether or
not something was found in between (`visitor_preserves`), so its scope bookkeeping never fails
(`traverse_ne_fault`).
-/

namespace TemplateScope.Shadowing

def passName : String := "assert-local-variable-shadowing-helper-invocation"

inductive Stop where
  | conflict (conflict : Conflict)
  | fault (fault : ScopeFault)
deriving DecidableEq, Repr

abbrev Checking := Visit ScopeTracker Stop

/-- Run `below` with `names` bound, and unbind them however it ends. -/
def inScope (names : List String) (below : Checking Unit) : Checking Unit := fun scopes =>
  match below (scopes.enter names) with
  | (result, inner) =>
      match inner.exit with
      | .ok outer => (result, outer)
      | .error fault => (.error (.fault fault), inner)

/-- A conflict is found where the callee's name is bound. Literals and paths from `this` can mean
only one thing. -/
def checkInvocation (env : Environment) (role : Role) (callee : Expression Location)
    (loc : Location) : Checking Unit := fun scopes =>
  match callee.headName? with
  | none => (.ok (), scopes)
  | some name =>
      if scopes.isBound name then
        (.error (.conflict ⟨name, role, loc, env.moduleName, env.locationFormat env.moduleName loc⟩),
          scopes)
      else (.ok (), scopes)

/-- Without arguments a mustache reads a value and invokes nothing. -/
def checkMustache (env : Environment) (m : Mustache Location) : Checking Unit :=
  if m.call.hasArguments then checkInvocation env .helper m.call.callee m.loc else pure ()

/-- Calls in parentheses and modifiers are always invocations. -/
def visitor (env : Environment) : Visitor Location ScopeTracker Stop where
  template t below := inScope t.blockParams below
  block b below := inScope b.blockParams below
  elementChildren e below := inScope e.blockParams below
  mustache m below := do
    checkMustache env m
    below
  subExpression c loc below := do
    checkInvocation env .helper c.callee loc
    below
  modifier m below := do
    checkInvocation env .modifier m.call.callee m.loc
    below

def traverse (env : Environment) (t : Template Location) : Except Stop Unit :=
  match (visitor env).run t .new with
  | (result, scopes) =>
      if scopes.depth = 0 then result else .error (.fault (.unclosed scopes.depth))

/-! ## Scopes are balanced -/

/-- From a tracker whose counts agree with its frames, the visit comes back with the same frames,
again with counts that agree, and without a fault. -/
def Balanced (x : Checking Unit) : Prop :=
  ∀ scopes : ScopeTracker, scopes.Counted →
    (x scopes).2.frames = scopes.frames ∧ (x scopes).2.Counted ∧
      ∀ fault, (x scopes).1 ≠ .error (.fault fault)

theorem balanced_pure : Balanced (pure ()) := by
  intro scopes h
  exact ⟨rfl, h, fun fault hfault => nomatch hfault⟩

theorem Balanced.seq {x y : Checking Unit} (hx : Balanced x) (hy : Balanced y) :
    Balanced (do x; y) := by
  intro scopes h
  rw [Visit.seq_apply]
  obtain ⟨hframes, hcounted, hfault⟩ := hx scopes h
  rcases hrun : x scopes with ⟨_ | _, middle⟩
  · simp only [hrun] at hframes hcounted hfault
    exact ⟨hframes, hcounted, hfault⟩
  · simp only [hrun] at hframes hcounted
    obtain ⟨hframes', hcounted', hfault'⟩ := hy middle hcounted
    exact ⟨hframes'.trans hframes, hcounted', hfault'⟩

theorem Balanced.inScope {below : Checking Unit} (h : Balanced below) (names : List String) :
    Balanced (inScope names below) := by
  intro scopes hscopes
  obtain ⟨hframes, hcounted, hfault⟩ :=
    h (scopes.enter names) (ScopeTracker.enter_counted hscopes names)
  obtain ⟨outer, hexit, houter, houterCounted⟩ := ScopeTracker.exit_counted hcounted hframes
  rcases hrun : below (scopes.enter names) with ⟨result, inner⟩
  simp only [hrun] at hexit hfault
  simp only [Shadowing.inScope, hrun, hexit]
  exact ⟨houter, houterCounted, hfault⟩

theorem balanced_checkInvocation (env : Environment) (role : Role) (callee : Expression Location)
    (loc : Location) : Balanced (checkInvocation env role callee loc) := by
  intro scopes h
  unfold checkInvocation
  split
  · exact ⟨rfl, h, fun fault hfault => nomatch hfault⟩
  · split
    · exact ⟨rfl, h, fun fault hfault => nomatch hfault⟩
    · exact ⟨rfl, h, fun fault hfault => nomatch hfault⟩

theorem balanced_checkMustache (env : Environment) (m : Mustache Location) :
    Balanced (checkMustache env m) := by
  unfold checkMustache
  split
  · exact balanced_checkInvocation env .helper m.call.callee m.loc
  · exact balanced_pure

theorem visitor_preserves (env : Environment) : (visitor env).Preserves Balanced where
  nothing := balanced_pure
  sequence := Balanced.seq
  template t _ h := h.inScope t.blockParams
  block b _ h := h.inScope b.blockParams
  elementChildren e _ h := h.inScope e.blockParams
  mustache m _ h := (balanced_checkMustache env m).seq h
  subExpression c loc _ h := (balanced_checkInvocation env .helper c.callee loc).seq h
  modifier m _ h := (balanced_checkInvocation env .modifier m.call.callee m.loc).seq h
  statement _ _ h := h
  blockStatement _ _ h := h
  element _ _ h := h
  attr _ _ h := h
  expression _ _ h := h
  hash _ _ h := h
  text _ := balanced_pure
  mustacheComment _ := balanced_pure
  comment _ := balanced_pure
  path _ _ := balanced_pure
  literal _ _ := balanced_pure

theorem traverse_eq (env : Environment) (t : Template Location) :
    traverse env t = ((visitor env).run t .new).1 := by
  have h := (visitor_preserves env).visitTemplate t .new ScopeTracker.new_counted
  have hdepth : ((visitor env).run t .new).2.depth = 0 := by
    rw [Visitor.run, ScopeTracker.depth, h.1]
    rfl
  unfold traverse
  rcases hrun : (visitor env).run t .new with ⟨result, scopes⟩
  simp only [hrun] at hdepth
  simp [hdepth]

theorem traverse_ne_fault (env : Environment) (t : Template Location) (fault : ScopeFault) :
    traverse env t ≠ .error (.fault fault) := by
  rw [traverse_eq]
  exact ((visitor_preserves env).visitTemplate t .new ScopeTracker.new_counted).2.2 fault

/-! ## The check -/

/-- The first conflict of a template in document order. In strict mode there is none. -/
def check (env : Environment) (t : Template Location) : Except Conflict Unit :=
  if env.strictMode then .ok ()
  else
    match h : traverse env t with
    | .ok () => .ok ()
    | .error (.conflict c) => .error c
    | .error (.fault f) => absurd h (traverse_ne_fault env t f)

theorem check_of_strictMode {env : Environment} (h : env.strictMode = true)
    (t : Template Location) : check env t = .ok () :=
  if_pos h

end TemplateScope.Shadowing
