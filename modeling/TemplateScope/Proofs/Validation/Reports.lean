import TemplateScope.Proofs.Shadowing.Renaming
import TemplateScope.Proofs.Validation.Batches

/-!
# Reports do not depend on how places are shown

The module name and the location format of an environment reach a conflict only after it has been
found. So a template has the same conflicts in any two environments, shown in each one's way
(`conflicts_shownIn`), and unless strict mode tells them apart its check ends at the same one
(`check_shownIn`). What is reported of a unit, as a conflict, as a diagnostic or in a batch, then
agrees between any two formats (`reports_agree`).
-/

namespace TemplateScope

/-! ## One template in two environments -/

/-- The same conflict as another environment shows it. -/
def Conflict.shownIn (env : Environment) (c : Conflict) : Conflict :=
  { c with moduleName := env.moduleName, location := env.locationFormat env.moduleName c.loc }

theorem Invocation.conflict?_shownIn (env env' : Environment) (i : Invocation Location) :
    i.conflict? env' = (i.conflict? env).map (Conflict.shownIn env') := by
  rw [Invocation.conflict?, Invocation.conflict?, Option.map_map]
  rfl

theorem Template.conflicts_shownIn (env env' : Environment) (t : Template Location) :
    t.conflicts env' = (t.conflicts env).map (Conflict.shownIn env') := by
  rw [Template.conflicts, Template.conflicts, List.map_filterMap]
  exact List.filterMap_congr fun i _ => i.conflict?_shownIn env env'

namespace Shadowing

theorem verdict_map (f : Conflict → Conflict) (cs : List Conflict) :
    verdict (cs.map f) = (verdict cs).mapError f := by
  cases cs with
  | nil => rfl
  | cons c rest => rfl

theorem check_shownIn {env env' : Environment} (h : env'.strictMode = env.strictMode)
    (t : Template Location) : check env' t = (check env t).mapError (Conflict.shownIn env') := by
  cases hstrict : env.strictMode with
  | true =>
      rw [check_of_strictMode hstrict, check_of_strictMode (h.trans hstrict)]
      rfl
  | false =>
      rw [check_of_not_strictMode hstrict, check_of_not_strictMode (h.trans hstrict),
        t.conflicts_shownIn env env', verdict_map]

/-- A conflict is that of an invocation in the template, and the environment shows it. -/
theorem exists_invocation_of_error {env : Environment} {t : Template Location} {c : Conflict}
    (h : check env t = .error c) :
    c.shownIn env = c ∧
      ∃ i ∈ t.invocations, i.shadowed? = some c.name ∧ i.role = c.role ∧ i.loc = c.loc := by
  obtain ⟨i, hi, hc⟩ := List.mem_filterMap.1 (mem_conflicts_of_error h)
  obtain ⟨name, hname, rfl⟩ := Option.map_eq_some_iff.1 hc
  exact ⟨rfl, i, hi, hname, rfl, rfl⟩

end Shadowing

/-! ## What is reported -/

/-- What tools list of a conflict: everything except its place as the message shows it. -/
structure ConflictListing where
  code : String
  name : String
  role : Role
  loc : Location
  moduleName : Option String
  help : String
deriving DecidableEq, Repr

def Conflict.listing (c : Conflict) : ConflictListing :=
  ⟨Conflict.code, c.name, c.role, c.loc, c.moduleName, c.help⟩

/-- The invocation in conflict: what it calls, in which role, and where it stands. -/
def Conflict.subject (c : Conflict) : String × Role × Location := (c.name, c.role, c.loc)

/-- The same template in another module. -/
def TemplateUnit.inModule (u : TemplateUnit) (moduleName : Option String) : TemplateUnit :=
  { u with options := { u.options with moduleName := moduleName } }

theorem validate_shownIn (format format' : LocationFormat) {u u' : TemplateUnit}
    (htemplate : u'.template = u.template)
    (hstrict : u'.options.strictMode = u.options.strictMode) :
    validate format' u' =
      (validate format u).mapError (Conflict.shownIn (.ofOptions u'.options format')) := by
  have henv : (Environment.ofOptions u'.options format').strictMode =
      (Environment.ofOptions u.options format).strictMode := hstrict
  rw [validate, validate, htemplate]
  exact Shadowing.check_shownIn henv u.template

section

variable {format : LocationFormat} (format' : LocationFormat) {u : TemplateUnit} {c : Conflict}

theorem moduleName_of_validate (h : validate format u = .error c) :
    c.moduleName = u.options.moduleName :=
  (congrArg Conflict.moduleName (Shadowing.exists_invocation_of_error h).1).symm

theorem location_of_validate (h : validate format u = .error c) :
    c.location = format u.options.moduleName c.loc :=
  (congrArg Conflict.location (Shadowing.exists_invocation_of_error h).1).symm

theorem validate_of_error (h : validate format u = .error c) :
    validate format' u = .error { c with location := format' u.options.moduleName c.loc } := by
  have hmodule := moduleName_of_validate h
  rw [validate_shownIn format format' rfl rfl, h]
  simp [Except.mapError, Conflict.shownIn, Environment.ofOptions, hmodule]

theorem validate_of_ok (h : validate format u = .ok ()) : validate format' u = .ok () := by
  rw [validate_shownIn format format' rfl rfl, h]
  rfl

end

theorem listing_format (format format' : LocationFormat) (u : TemplateUnit) :
    (validate format u).mapError Conflict.listing =
      (validate format' u).mapError Conflict.listing := by
  cases h : validate format u with
  | ok _ => rw [validate_of_ok format' h]
  | error c =>
      rw [validate_of_error format' h]
      rfl

theorem subject_inModule (format : LocationFormat) (u : TemplateUnit)
    (moduleName : Option String) :
    (validate format (u.inModule moduleName)).mapError Conflict.subject =
      (validate format u).mapError Conflict.subject := by
  have hmoved : validate format (u.inModule moduleName) = (validate format u).mapError
      (Conflict.shownIn (.ofOptions (u.inModule moduleName).options format)) :=
    validate_shownIn format format rfl rfl
  rw [hmoved]
  cases validate format u with
  | ok _ => rfl
  | error c => rfl

theorem diagnose_format (format format' : LocationFormat) (u : TemplateUnit) :
    diagnose format u = diagnose format' u := by
  have htoList : (diagnose format u).toList = (diagnose format' u).toList := by
    cases h : validate format u with
    | ok _ => rw [diagnose_of_ok format h, diagnose_of_ok format' (validate_of_ok format' h)]
    | error c =>
        rw [diagnose_of_error format h, diagnose_of_error format' (validate_of_error format' h)]
        rfl
  exact congrArg DiagnosticCollection.mk htoList

theorem diagnoseAll_format (format format' : LocationFormat) (units : List TemplateUnit) :
    diagnoseAll format units = diagnoseAll format' units := by
  have hfindings : findings format units = findings format' units := by
    unfold findings
    simp only [diagnose_format format format']
  rw [diagnoseAll_eq_sort, diagnoseAll_eq_sort, hfindings]

theorem size_diagnose_eq_one_iff (format : LocationFormat) (u : TemplateUnit) :
    (diagnose format u).size = 1 ↔ ∃ c, validate format u = .error c := by
  cases h : validate format u with
  | ok _ => simp [DiagnosticCollection.size, diagnose_of_ok format h]
  | error c => simp [DiagnosticCollection.size, diagnose_of_error format h]

/-- Whatever the format, a unit is accepted, or rejected for one conflict that is listed in one way
and differs only in the place shown, which is what the format makes of the module and of the
invocation found. There is one diagnostic exactly for a rejected unit, it repeats the conflict, and
the format has no part in it, nor in the diagnostics of a batch. Moved to another module, a unit
keeps its verdict and the invocation it is rejected for. -/
theorem reports_agree (format format' : LocationFormat) :
    (∀ u : TemplateUnit,
      (validate format u).mapError Conflict.listing =
          (validate format' u).mapError Conflict.listing ∧
        (∀ c, validate format u = .error c →
          c.moduleName = u.options.moduleName ∧
            c.location = format u.options.moduleName c.loc ∧
            (∃ i ∈ u.template.invocations,
              i.shadowed? = some c.name ∧ i.role = c.role ∧ i.loc = c.loc) ∧
            ∃ d, (diagnose format u).toList = [d] ∧ d.moduleName = c.moduleName ∧
              d.loc = some c.loc ∧ d.code = Message.shadowedInvocation.code ∧
              d.messageText = c.messageText) ∧
        ((diagnose format u).size = 1 ↔ ∃ c, validate format u = .error c) ∧
        (validate format u = .ok () → (diagnose format u).toList = []) ∧
        diagnose format u = diagnose format' u ∧
        ∀ moduleName, (validate format (u.inModule moduleName)).mapError Conflict.subject =
          (validate format u).mapError Conflict.subject) ∧
      ∀ units, diagnoseAll format units = diagnoseAll format' units := by
  refine ⟨fun u => ⟨listing_format format format' u, fun c h => ?_,
    size_diagnose_eq_one_iff format u, diagnose_of_ok format, diagnose_format format format' u,
    subject_inModule format u⟩, diagnoseAll_format format format'⟩
  have hinvocation := (Shadowing.exists_invocation_of_error h).2
  exact ⟨moduleName_of_validate h, location_of_validate h, hinvocation, c.toDiagnostic,
    diagnose_of_error format h, rfl, rfl, rfl, rfl⟩

end TemplateScope
