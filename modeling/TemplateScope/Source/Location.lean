import TemplateScope.Source.Position

/-!
# Source locations

A location is a stretch of source that does not end before it starts. Coordinates that come from
outside may break that rule, so they have a type of their own, and `ofCoords` is the only way from
coordinates to a location: it succeeds exactly on ordered coordinates (`ofCoords_eq_ok_iff`).
-/

namespace TemplateScope

/-- The four numbers of a location as they are given, in any order. -/
structure Coords where
  startLine : Nat
  startColumn : Nat
  stopLine : Nat
  stopColumn : Nat
deriving DecidableEq, Repr

namespace Coords

def start (c : Coords) : Position := ⟨c.startLine, c.startColumn⟩

def stop (c : Coords) : Position := ⟨c.stopLine, c.stopColumn⟩

/-- The end is not before the start. -/
def Ordered (c : Coords) : Prop := c.start ≤ c.stop

instance (c : Coords) : Decidable c.Ordered := inferInstanceAs (Decidable (c.start ≤ c.stop))

end Coords

/-- Where a node starts and where it ends, the end not included. -/
structure Location where
  start : Position
  stop : Position
  start_le_stop : start ≤ stop
deriving DecidableEq, Repr

/-- Why coordinates make no location. -/
inductive LocationError where
  | endsBeforeStart
deriving DecidableEq, Repr

def LocationError.message : LocationError → String
  | .endsBeforeStart => "assertion failed: end >= start"

namespace Location

def ofCoords (c : Coords) : Except LocationError Location :=
  if h : c.Ordered then .ok ⟨c.start, c.stop, h⟩ else .error .endsBeforeStart

def toCoords (l : Location) : Coords :=
  ⟨l.start.line, l.start.column, l.stop.line, l.stop.column⟩

@[simp] theorem ofCoords_toCoords (l : Location) : ofCoords l.toCoords = .ok l :=
  dif_pos l.start_le_stop

theorem ofCoords_eq_ok_iff {c : Coords} {l : Location} :
    ofCoords c = .ok l ↔ c = l.toCoords := by
  constructor
  · intro h
    unfold ofCoords at h
    split at h
    · cases h
      rfl
    · cases h
  · rintro rfl
    exact ofCoords_toCoords l

theorem ofCoords_eq_error_iff {c : Coords} {e : LocationError} :
    ofCoords c = .error e ↔ ¬ c.Ordered := by
  cases e
  unfold ofCoords
  split <;> simp_all

/-- The location of a node that comes from no source text. -/
def synthetic : Location := ⟨⟨0, 0⟩, ⟨0, 0⟩, Position.le_refl _⟩

instance : Inhabited Location := ⟨synthetic⟩

/-- Source lines count from one, so a start on line zero is in no source text. -/
def isSynthetic (l : Location) : Bool := l.start.line == 0

def display (l : Location) : String := l.start.display

def short (l : Location) : String := s!"{l.start.short}..{l.stop.short}"

end Location

end TemplateScope
