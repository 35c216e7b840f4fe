/-!
# Placeholders in message texts

A message text marks the place of its arguments by their numbers in curly braces, counted from
zero. Arguments are put in one number after another, each time in the text that the numbers before
it have left, so a placeholder that an argument brings along is filled by a later argument.
-/

namespace TemplateScope.Placeholder

/-- Copy a text, putting `replacement` for each `pattern` met on the way from left to right.
`covered` characters in front belong to a match already replaced and are left out. -/
def replaceFrom (pattern replacement : List Char) (covered : Nat) : List Char → List Char
  | [] => []
  | c :: rest =>
      match covered with
      | n + 1 => replaceFrom pattern replacement n rest
      | 0 =>
          if pattern.isPrefixOf (c :: rest) then
            replacement ++ replaceFrom pattern replacement (pattern.length - 1) rest
          else c :: replaceFrom pattern replacement 0 rest

/-- Put `replacement` for every `pattern` that is not empty, matches not overlapping. -/
def replaceAll (pattern replacement text : List Char) : List Char :=
  replaceFrom pattern replacement 0 text

theorem replaceFrom_covered (pattern replacement : List Char) (covered : Nat) (text : List Char) :
    replaceFrom pattern replacement covered text =
      replaceAll pattern replacement (text.drop covered) := by
  induction text generalizing covered with
  | nil => simp [replaceFrom, replaceAll]
  | cons c rest ih =>
      cases covered with
      | zero => rfl
      | succ n => simpa [replaceFrom] using ih n

def mark (i : Nat) : List Char :=
  '\x7b' :: (Nat.toDigits 10 i ++ ['\x7d'])

def fillFrom (i : Nat) (text : List Char) : List (List Char) → List Char
  | [] => text
  | arg :: args => fillFrom (i + 1) (replaceAll (mark i) arg text) args

def fill (text : String) (args : List String) : String :=
  String.ofList (fillFrom 0 text.toList (args.map String.toList))

end TemplateScope.Placeholder
