import TemplateScope.Diagnostic.LocationFormat

/-!
# Rendered places are unambiguous

The name of a module is written as it is, so it may hold quotes, parentheses and what looks like a
position. A place is told from its end: a position ends with a digit and a name with a quote, the
column is all the digits behind the last `C`, the line all those behind the last `L` before it, and
what is left in front belongs to the name (`append_display_inj`). So nothing in a name can be taken
for another place (`inside_inj`).
-/

namespace TemplateScope

/-! ## Positions at the end of a text -/

/-- All digits at the end of a text belong to the number that it ends with. -/
theorem takeWhile_isDigit_reverse {c : Char} (hc : c.isDigit = false) (front : List Char) (n : Nat) :
    (front ++ c :: Nat.toDigits 10 n).reverse.takeWhile Char.isDigit =
      (Nat.toDigits 10 n).reverse := by
  have hdigits : ∀ d ∈ (Nat.toDigits 10 n).reverse, d.isDigit := by
    intro d hd
    exact Nat.isDigit_of_mem_toDigits (by decide) (by decide) (List.mem_reverse.1 hd)
  rw [List.reverse_append, List.reverse_cons, List.append_assoc,
    List.takeWhile_append_of_pos hdigits, List.singleton_append,
    List.takeWhile_cons_of_neg (by simp [hc]), List.append_nil]

theorem append_toDigits_inj {c : Char} (hc : c.isDigit = false) {front front' : List Char}
    {n n' : Nat} :
    front ++ c :: Nat.toDigits 10 n = front' ++ c :: Nat.toDigits 10 n' ↔
      front = front' ∧ n = n' := by
  constructor
  · intro h
    have hreverse : (Nat.toDigits 10 n).reverse = (Nat.toDigits 10 n').reverse := by
      rw [← takeWhile_isDigit_reverse hc front, h, takeWhile_isDigit_reverse hc]
    have hdigits := List.reverse_inj.1 hreverse
    rw [hdigits, List.append_left_inj] at h
    refine ⟨h, ?_⟩
    rw [← Nat.ofDigitChars_ten_toDigits (n := n), hdigits, Nat.ofDigitChars_ten_toDigits]
  · rintro ⟨rfl, rfl⟩
    rfl

namespace Position

theorem eq_of_coordinates {p p' : Position} (hline : p.line = p'.line)
    (hcolumn : p.column = p'.column) : p = p' := by
  cases p
  cases p'
  cases hline
  cases hcolumn
  rfl

theorem toList_display (p : Position) :
    p.display.toList = 'L' :: Nat.toDigits 10 p.line ++ ':' :: 'C' :: Nat.toDigits 10 p.column := by
  simp [display, toString]

/-- A position at the end of a text can be told from what stands in front of it. -/
theorem append_display_inj {front front' : List Char} {p p' : Position} :
    front ++ p.display.toList = front' ++ p'.display.toList ↔ front = front' ∧ p = p' := by
  constructor
  · intro h
    rw [toList_display, toList_display] at h
    have hcolumn : (front ++ 'L' :: Nat.toDigits 10 p.line ++ [':']) ++
          'C' :: Nat.toDigits 10 p.column =
        (front' ++ 'L' :: Nat.toDigits 10 p'.line ++ [':']) ++
          'C' :: Nat.toDigits 10 p'.column := by
      simpa only [List.append_assoc, List.cons_append, List.nil_append] using h
    obtain ⟨hline, column_eq⟩ := (append_toDigits_inj (by decide)).1 hcolumn
    rw [List.append_left_inj] at hline
    obtain ⟨hfront, line_eq⟩ := (append_toDigits_inj (by decide)).1 hline
    exact ⟨hfront, eq_of_coordinates line_eq column_eq⟩
  · rintro ⟨rfl, rfl⟩
    rfl

theorem getLast?_append_display (front : List Char) (p : Position) :
    ∃ c, (front ++ p.display.toList).getLast? = some c ∧ c.isDigit := by
  have hne : Nat.toDigits 10 p.column ≠ [] := Nat.toDigits_ne_nil
  refine ⟨(Nat.toDigits 10 p.column).getLast hne, ?_, ?_⟩
  · rw [toList_display, List.cons_append, List.getLast?_append]
    simp [List.getLast?_append, List.getLast?_cons, List.getLast?_eq_some_getLast hne]
  · exact Nat.isDigit_of_mem_toDigits (by decide) (by decide) (List.getLast_mem hne)

end Position

namespace LocationFormat

/-! ## Between the parentheses -/

/-- A name in its quotes and what stands behind it, or nothing where there is no name. -/
def named (behind : List Char) : Option String → List Char
  | none => []
  | some name => '\x27' :: (name.toList ++ '\x27' :: behind)

/-- What stands between the parentheses, or nothing where there are none. -/
def inside (name? : Option String) : Option Position → List Char
  | none => named [] name?
  | some start => named " @ ".toList name? ++ start.display.toList

/-- What stands behind a name is the same for all names, so it does not matter what is in them. -/
theorem named_inj {behind : List Char} {name? name?' : Option String} :
    named behind name? = named behind name?' ↔ name? = name?' := by
  cases name? with
  | none =>
      cases name?' with
      | none => simp
      | some name' => simp [named]
  | some name =>
      cases name?' with
      | none => simp [named]
      | some name' =>
          rw [named, named, List.cons_inj_right, List.append_left_inj, String.toList_inj,
            Option.some.injEq]

theorem inside_none_ne (name? name?' : Option String) (start : Position) :
    inside name? none ≠ inside name?' (some start) := by
  intro h
  obtain ⟨c, hlast, hc⟩ := start.getLast?_append_display (named " @ ".toList name?')
  have hinside : named [] name? = named " @ ".toList name?' ++ start.display.toList := h
  rw [← hinside] at hlast
  cases name? with
  | none => simp [named] at hlast
  | some name =>
      have hquote : '\x27' = c := by simpa [named, List.getLast?_cons] using hlast
      rw [← hquote] at hc
      exact absurd hc (by decide)

theorem inside_inj {name? name?' : Option String} {start? start?' : Option Position} :
    inside name? start? = inside name?' start?' ↔ name? = name?' ∧ start? = start?' := by
  cases start? with
  | none =>
      cases start?' with
      | none => simp [inside, named_inj]
      | some start' => simp [inside_none_ne]
  | some start =>
      cases start?' with
      | none => simp [(inside_none_ne _ _ _).symm]
      | some start' => simp [inside, Position.append_display_inj, named_inj]

theorem inside_eq_nil_iff {name? : Option String} {start? : Option Position} :
    inside name? start? = [] ↔ name? = none ∧ start? = none := by
  have hnothing : inside none none = [] := rfl
  rw [← hnothing, inside_inj]

/-! ## Whole places -/

def parenthesized : List Char → List Char
  | [] => []
  | c :: text => '(' :: (c :: text ++ [')'])

theorem parenthesized_inj {text text' : List Char} :
    parenthesized text = parenthesized text' ↔ text = text' := by
  cases text with
  | nil =>
      cases text' with
      | nil => simp
      | cons c' text' => simp [parenthesized]
  | cons c text =>
      cases text' with
      | nil => simp [parenthesized]
      | cons c' text' =>
          rw [parenthesized, parenthesized, List.cons_inj_right, List.append_left_inj]

theorem toList_modulePosition (moduleName : Option String) (loc : Location) :
    (modulePosition moduleName loc).toList =
      parenthesized (inside (knownModule? moduleName) (knownStart? loc)) := by
  unfold modulePosition
  cases knownModule? moduleName with
  | none =>
      cases knownStart? loc with
      | none => rfl
      | some start => simp [inside, named, Position.toList_display, parenthesized, toString]
  | some name =>
      cases knownStart? loc with
      | none => simp [inside, named, parenthesized, toString]
      | some start => simp [inside, named, Position.toList_display, parenthesized, toString]

theorem modulePosition_inj {moduleName moduleName' : Option String} {loc loc' : Location} :
    modulePosition moduleName loc = modulePosition moduleName' loc' ↔
      knownModule? moduleName = knownModule? moduleName' ∧ knownStart? loc = knownStart? loc' := by
  rw [← String.toList_inj, toList_modulePosition, toList_modulePosition, parenthesized_inj,
    inside_inj]

/-! ## What is known -/

/-- A module has no name, or an empty one. -/
def UnknownModule (moduleName : Option String) : Prop := moduleName = none ∨ moduleName = some ""

theorem knownModule?_eq_some_iff {moduleName : Option String} {name : String} :
    knownModule? moduleName = some name ↔ moduleName = some name ∧ name ≠ "" := by
  rw [knownModule?, Option.filter_eq_some_iff, decide_eq_true_eq]

theorem knownModule?_eq_none_iff {moduleName : Option String} :
    knownModule? moduleName = none ↔ UnknownModule moduleName := by
  cases moduleName with
  | none => simp [knownModule?, UnknownModule]
  | some name => simp [knownModule?, UnknownModule, Option.filter]

theorem knownModule?_eq_iff {moduleName moduleName' : Option String} :
    knownModule? moduleName = knownModule? moduleName' ↔
      UnknownModule moduleName ∧ UnknownModule moduleName' ∨
        ∃ name, name ≠ "" ∧ moduleName = some name ∧ moduleName' = some name := by
  constructor
  · intro h
    cases hknown : knownModule? moduleName' with
    | none =>
        rw [hknown] at h
        exact .inl ⟨knownModule?_eq_none_iff.1 h, knownModule?_eq_none_iff.1 hknown⟩
    | some name =>
        rw [hknown] at h
        obtain ⟨hname, hne⟩ := knownModule?_eq_some_iff.1 h
        exact .inr ⟨name, hne, hname, (knownModule?_eq_some_iff.1 hknown).1⟩
  · rintro (⟨h, h'⟩ | ⟨name, -, rfl, rfl⟩)
    · rw [knownModule?_eq_none_iff.2 h, knownModule?_eq_none_iff.2 h']
    · rfl

theorem knownStart?_eq_none_iff {loc : Location} :
    knownStart? loc = none ↔ loc.isSynthetic := by
  simp [knownStart?]

theorem knownStart?_eq_iff {loc loc' : Location} :
    knownStart? loc = knownStart? loc' ↔
      loc.isSynthetic ∧ loc'.isSynthetic ∨
        loc.start.line = loc'.start.line ∧ loc.start.column = loc'.start.column := by
  constructor
  · intro h
    by_cases hsynthetic : loc.isSynthetic
    · rw [knownStart?_eq_none_iff.2 hsynthetic, eq_comm, knownStart?_eq_none_iff] at h
      exact .inl ⟨hsynthetic, h⟩
    · have hstart : loc'.isSynthetic = false ∧ loc.start = loc'.start := by
        simpa [knownStart?, hsynthetic] using h
      exact .inr ⟨by rw [hstart.2], by rw [hstart.2]⟩
  · rintro (⟨h, h'⟩ | ⟨hline, hcolumn⟩)
    · rw [knownStart?_eq_none_iff.2 h, knownStart?_eq_none_iff.2 h']
    · have hstart : loc.start = loc'.start := Position.eq_of_coordinates hline hcolumn
      rw [knownStart?, knownStart?, Location.isSynthetic, Location.isSynthetic, hstart]

theorem modulePosition_eq_empty_iff {moduleName : Option String} {loc : Location} :
    modulePosition moduleName loc = "" ↔ UnknownModule moduleName ∧ loc.isSynthetic := by
  have hnothing : parenthesized [] = [] := rfl
  rw [← knownModule?_eq_none_iff, ← knownStart?_eq_none_iff, ← inside_eq_nil_iff,
    ← parenthesized_inj, ← toList_modulePosition, hnothing, String.toList_eq_nil_iff]

theorem exists_parenthesized {moduleName : Option String} {loc : Location}
    (h : modulePosition moduleName loc ≠ "") :
    ∃ text, modulePosition moduleName loc = "(" ++ text ++ ")" := by
  have hlist := toList_modulePosition moduleName loc
  cases hinside : inside (knownModule? moduleName) (knownStart? loc) with
  | nil =>
      rw [hinside] at hlist
      exact absurd (String.toList_inj.1 hlist) h
  | cons c text =>
      rw [hinside] at hlist
      refine ⟨String.ofList (c :: text), String.toList_inj.1 ?_⟩
      rw [hlist]
      simp [parenthesized]

theorem ends_of_modulePosition {moduleName : Option String} {loc : Location} {c : Char}
    (hc : c.isWhitespace) :
    (modulePosition moduleName loc).toList.head? ≠ some c ∧
      (modulePosition moduleName loc).toList.getLast? ≠ some c := by
  by_cases h : modulePosition moduleName loc = ""
  · simp [h]
  · obtain ⟨text, htext⟩ := exists_parenthesized h
    have hopening : '(' ≠ c := by
      rintro rfl
      exact absurd hc (by decide)
    have hclosing : ')' ≠ c := by
      rintro rfl
      exact absurd hc (by decide)
    rw [htext]
    exact ⟨by simpa using hopening, by simpa [List.getLast?_cons] using hclosing⟩

/-- Two places are rendered alike exactly when they agree in what is known of them: in the module
unless it is unknown in both, and in the start unless both are synthetic. Where nothing is known
nothing is written. All else is written in parentheses, so that no blank stands at its ends. -/
theorem modulePosition_unambiguous :
    (∀ (moduleName moduleName' : Option String) (loc loc' : Location),
        modulePosition moduleName loc = modulePosition moduleName' loc' ↔
          (UnknownModule moduleName ∧ UnknownModule moduleName' ∨
              ∃ name, name ≠ "" ∧ moduleName = some name ∧ moduleName' = some name) ∧
            (loc.isSynthetic ∧ loc'.isSynthetic ∨
              loc.start.line = loc'.start.line ∧ loc.start.column = loc'.start.column)) ∧
      ∀ (moduleName : Option String) (loc : Location),
        (modulePosition moduleName loc = "" ↔ UnknownModule moduleName ∧ loc.isSynthetic) ∧
          (modulePosition moduleName loc ≠ "" →
            ∃ text, modulePosition moduleName loc = "(" ++ text ++ ")") ∧
          ∀ c : Char, c.isWhitespace →
            (modulePosition moduleName loc).toList.head? ≠ some c ∧
              (modulePosition moduleName loc).toList.getLast? ≠ some c := by
  refine ⟨fun moduleName moduleName' loc loc' => ?_, fun moduleName loc =>
    ⟨modulePosition_eq_empty_iff, exists_parenthesized, fun c => ends_of_modulePosition⟩⟩
  rw [modulePosition_inj, knownModule?_eq_iff, knownStart?_eq_iff]

/-- A name that looks like a place has its closing quote behind the position. -/
example : modulePosition (some "a' @ L1:C2") .synthetic = "('a' @ L1:C2')" := by decide

end LocationFormat

end TemplateScope
