/-!
# Paths

A path is written with dots: `this.x`, `@model.name`, `item.name`. Its first segment is its head,
and the head alone decides what the path can refer to. Every text is the spelling of one path:
`parse` reads it and `spelling` writes it back (`spelling_parse`).
-/

namespace TemplateScope

inductive PathHead where
  | this
  /-- A named argument of the enclosing component, spelled with an at sign before its name. -/
  | argument (name : String)
  | var (name : String)
deriving DecidableEq, Repr

namespace PathHead

/-- Only the exact text `this` is the receiver, and only a leading at sign marks an argument. -/
def parse (segment : List Char) : PathHead :=
  if segment = ['t', 'h', 'i', 's'] then .this
  else
    match segment with
    | '@' :: name => .argument (String.ofList name)
    | _ => .var (String.ofList segment)

def spelling : PathHead → String
  | .this => "this"
  | .argument name => "@" ++ name
  | .var name => name

/-- What a block param would have to be called to capture the path; nothing captures `this`. -/
def name? : PathHead → Option String
  | .this => none
  | .argument name => some name
  | .var name => some name

/-- The heads that are read back from their spelling: a name must not hold a dot, and a bare name
must not look like one of the other heads. -/
def IsCanonical : PathHead → Prop
  | .this => True
  | .argument name => '.' ∉ name.toList
  | .var name => '.' ∉ name.toList ∧ name ≠ "this" ∧ name.toList.head? ≠ some '@'

theorem spelling_parse (segment : List Char) :
    (parse segment).spelling = String.ofList segment := by
  unfold parse
  split
  · next h => subst h; rfl
  · split
    · next name _ => exact String.toList_inj.1 (by simp [spelling])
    · rfl

end PathHead

/-- Cut a text at its dots into a first segment and the segments after it. -/
def splitDots : List Char → List Char × List (List Char)
  | [] => ([], [])
  | c :: rest =>
      let (first, others) := splitDots rest
      if c = '.' then ([], first :: others) else (c :: first, others)

def joinDots (first : List Char) (others : List (List Char)) : List Char :=
  first ++ others.flatMap ('.' :: ·)

theorem joinDots_splitDots (text : List Char) :
    joinDots (splitDots text).1 (splitDots text).2 = text := by
  induction text with
  | nil => rfl
  | cons c rest ih =>
      unfold splitDots
      by_cases h : c = '.'
      · simpa [h, joinDots] using ih
      · simpa [h, joinDots] using ih

structure Path where
  head : PathHead
  tail : List String
deriving DecidableEq, Repr

namespace Path

def parse (text : String) : Path :=
  let (first, others) := splitDots text.toList
  ⟨PathHead.parse first, others.map String.ofList⟩

def spelling (p : Path) : String :=
  p.tail.foldl (fun text segment => text ++ "." ++ segment) p.head.spelling

def headName? (p : Path) : Option String := p.head.name?

def IsCanonical (p : Path) : Prop := p.head.IsCanonical ∧ ∀ segment ∈ p.tail, '.' ∉ segment.toList

private theorem toList_foldl_dots (segments : List String) (text : String) :
    (segments.foldl (fun text segment => text ++ "." ++ segment) text).toList =
      joinDots text.toList (segments.map String.toList) := by
  induction segments generalizing text with
  | nil => simp [joinDots]
  | cons segment segments ih => simp [ih, joinDots]

theorem toList_spelling (p : Path) :
    p.spelling.toList = joinDots p.head.spelling.toList (p.tail.map String.toList) :=
  toList_foldl_dots p.tail p.head.spelling

/-- No text is lost or respelled on the way through a path. -/
theorem spelling_parse (text : String) : (parse text).spelling = text := by
  apply String.toList_inj.1
  rw [toList_spelling]
  simpa [parse, PathHead.spelling_parse, Function.comp_def] using joinDots_splitDots text.toList

end Path

end TemplateScope
