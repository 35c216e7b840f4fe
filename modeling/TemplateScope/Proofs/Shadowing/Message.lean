import TemplateScope.Proofs.Text.Substitution
import TemplateScope.Shadowing.Conflict

/-!
# What a conflict says

The sentence of the catalogue has a hole for the name and behind it one for the role. The name goes
in first, so whatever it holds of the second placeholder is filled with the role, too. The rest of
the sentence has no braces, and so no part in such a placeholder: names are shown as they are unless
they hold a whole one (`forged_iff`).
-/

namespace TemplateScope.Conflict

open Placeholder

/-! ## The sentence -/

def beforeName : String := "Cannot invoke the `"

def afterName : String := "` "

def reason : String :=
  " because it was shadowed by a local variable (i.e. a block param) with the same name."

def advice : String := " Please rename the local variable to resolve the conflict."

/-- The sentence of the catalogue about a name in a role, the name between the backticks as it
is. -/
def sentence (name : String) (role : Role) : String :=
  beforeName ++ name ++ afterName ++ role.name ++ reason ++ advice

theorem text_eq : Message.shadowedInvocation.text =
    beforeName ++ "\x7b0\x7d" ++ afterName ++ "\x7b1\x7d" ++ reason ++ advice := by
  simp [Message.shadowedInvocation, beforeName, afterName, reason, advice]

theorem toList_text : Message.shadowedInvocation.text.toList =
    beforeName.toList ++
      (mark 0 ++ (afterName.toList ++ (mark 1 ++ (reason.toList ++ advice.toList)))) := by
  have hname : "\x7b0\x7d".toList = mark 0 := by decide
  have hrole : "\x7b1\x7d".toList = mark 1 := by decide
  rw [text_eq]
  simp only [String.toList_append, List.append_assoc, hname, hrole]

theorem noBrace_beforeName : ∀ c ∈ beforeName.toList, c ≠ '\x7b' := by
  simp [beforeName]

theorem noBrace_afterName : ∀ c ∈ afterName.toList, c ≠ '\x7b' ∧ c ≠ '\x7d' := by
  simp [afterName]

theorem noBrace_afterRole : ∀ c ∈ reason.toList ++ advice.toList, c ≠ '\x7b' ∧ c ≠ '\x7d' := by
  have hall : (reason.toList ++ advice.toList).all fun c => c ≠ '\x7b' && c ≠ '\x7d' := by
    rw [reason, advice, String.toList_ofList, String.toList_ofList]
    decide
  intro c hc
  simpa using List.all_eq_true.1 hall c hc

theorem pieces_text : pieces Message.shadowedInvocation.text.toList =
    beforeName.toList.map .char ++ .hole 0 ::
      (afterName.toList.map .char ++ .hole 1 :: (reason.toList ++ advice.toList).map .char) := by
  have hrole := pieces_append_of_ne (fun c hc => (noBrace_afterRole c hc).1) []
  rw [List.append_nil] at hrole
  rw [toList_text, pieces_append_of_ne noBrace_beforeName, pieces_mark_append,
    pieces_append_of_ne fun c hc => (noBrace_afterName c hc).1, pieces_mark_append, hrole]
  simp [pieces, piecesFrom]

/-! ## Filling it -/

theorem putIn_pieces_text (args : List (List Char)) :
    putIn args (pieces Message.shadowedInvocation.text.toList) =
      beforeName.toList.map .char ++ (Piece.filled args (.hole 0) ++
        (afterName.toList.map .char ++
          (Piece.filled args (.hole 1) ++ (reason.toList ++ advice.toList).map .char))) := by
  rw [pieces_text]
  simp only [putIn_append, putIn_hole, putIn_map_char]

theorem fillAtOnce_text (name : String) (role : Role) :
    fillAtOnce Message.shadowedInvocation.text [name, role.name] = sentence name role := by
  rw [fillAtOnce, sentence, putIn_pieces_text]
  simp [Piece.filled, String.append_assoc]

/-- What the second round finds besides its hole. -/
theorem unfilled_text (name : String) (role : Role) :
    unfilled Message.shadowedInvocation.text ([name, role.name].take 1) =
      beforeName.toList ++
        (name.toList ++ (afterName.toList ++ ' ' :: (reason.toList ++ advice.toList))) := by
  rw [unfilled, putIn_pieces_text]
  simp [Piece.filled, blank_map_char]

/-- The role is filled in twice exactly when the name holds a placeholder for it. -/
theorem forged_iff (name : String) (role : Role) :
    Forged Message.shadowedInvocation.text [name, role.name] 1 ↔ mark 1 <:+: name.toList := by
  have hback :
      ∀ c ∈ afterName.toList ++ ' ' :: (reason.toList ++ advice.toList), c ≠ '\x7d' := by
    rw [List.forall_mem_append, List.forall_mem_cons]
    exact ⟨fun c hc => (noBrace_afterName c hc).2, by decide,
      fun c hc => (noBrace_afterRole c hc).2⟩
  rw [Forged, unfilled_text, mark_infix_append_iff_right noBrace_beforeName,
    mark_infix_append_iff_left hback]

/-- No role is named by as many characters as a placeholder has. -/
theorem length_roleName_ne (role : Role) : role.name.length ≠ (mark 1).length := by
  cases role with
  | helper => decide
  | modifier => decide

theorem messageText_eq_sentence_iff (c : Conflict) :
    c.messageText = sentence c.name c.role ↔ ¬ mark 1 <:+: c.name.toList := by
  rw [← forged_iff c.name c.role, ← fillAtOnce_text]
  constructor
  · intro heq hforged
    have hzero : ∀ j < 1, ¬ Forged Message.shadowedInvocation.text [c.name, c.role.name] j := by
      intro j hj
      rw [Nat.lt_one_iff.1 hj]
      exact not_forged_zero _ _
    exact fill_ne_of_forged (Nat.lt_succ_self 1) hzero hforged (length_roleName_ne c.role) heq
  · intro hforged
    refine fill_of_not_forged fun k hk => ?_
    rcases Nat.eq_zero_or_pos k with rfl | hpos
    · exact not_forged_zero _ _
    · have hone : k = 1 := Nat.le_antisymm (Nat.le_of_lt_succ hk) hpos
      rw [hone]
      exact hforged

/-! ## Showing it -/

theorem display_eq (c : Conflict) :
    c.display = c.messageText ++ if c.location = "" then "" else " " ++ c.location := by
  unfold display
  by_cases h : c.location = ""
  · simp [h]
  · simp [h, String.append_assoc, toString]

/-- A diagnostic shows the name of its conflict as it is exactly when the name does not hold the
placeholder of the role. The conflict itself is shown by the same text, and behind it, after a
space, the place if there is one to show. -/
theorem message_verbatim_iff (c : Conflict) :
    (c.toDiagnostic.messageText = sentence c.name c.role ↔
        ¬ "\x7b1\x7d".toList <:+: c.name.toList) ∧
      c.display = c.toDiagnostic.messageText ++ if c.location = "" then "" else " " ++ c.location :=
  ⟨messageText_eq_sentence_iff c, display_eq c⟩

end TemplateScope.Conflict
