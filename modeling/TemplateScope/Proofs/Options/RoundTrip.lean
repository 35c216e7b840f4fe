import Mathlib.Logic.Function.Basic
import TemplateScope.Options.Writer
import TemplateScope.Proofs.Json.Writing
import TemplateScope.Proofs.Options.Acceptance

/-!
# Written options are read back

What is written for options is a text of their language (`optionsText_writeChars`), and a text
stands for one set of options at most. So options are read back as they were written, and no two
are written alike (`read_write`).
-/

namespace TemplateScope.Options

def label (field : Field) : List Char := '"' :: (field.key.toList ++ ['"', ':'])

theorem keyText_label (field : Field) : KeyText field.key.toList (label field) := by
  have hplain : ∀ c ∈ field.key.toList, c ≠ '"' ∧ c ≠ '\\' ∧ ' ' ≤ c := by
    cases field with
    | moduleName => simp [Field.key]
    | strictMode => simp [Field.key]
  exact .quoted (Json.decodes_of_plain hplain) Json.blank_nil

theorem nameText_writeModuleName (value : Option String) :
    NameText value (writeModuleName value) := by
  cases value with
  | none => exact .null
  | some name =>
      have hname := NameText.string (Json.decodes_flatMap_escapeChar name.toList)
      rw [String.ofList_toList] at hname
      exact hname

theorem flagText_write (value : Bool) :
    FlagText value (if value then "true" else "false").toList := by
  cases value with
  | true => exact .on
  | false => exact .off

theorem writeChars_eq (o : Options) :
    o.writeChars = '\x7b' :: (label .moduleName ++ writeModuleName o.moduleName ++
      ',' :: (label .strictMode ++ (if o.strictMode then "true" else "false").toList) ++
        ['\x7d']) := by
  have hopening : "\x7b\"moduleName\":".toList = '\x7b' :: label .moduleName := by decide
  have hmiddle : ",\"strictMode\":".toList = ',' :: label .strictMode := by decide
  have hclosing : "\x7d".toList = ['\x7d'] := rfl
  unfold writeChars
  rw [hopening, hmiddle, hclosing]
  simp only [List.cons_append, List.append_assoc]

theorem entriesText_writeChars (o : Options) :
    ∃ inner, o.writeChars = '\x7b' :: (inner ++ ['\x7d']) ∧
      EntriesText [.moduleName o.moduleName, .strictMode o.strictMode] inner := by
  have hname := EntryText.moduleName (keyText_label .moduleName) Json.blank_nil
    (nameText_writeModuleName o.moduleName)
  have hmode := EntryText.strictMode (keyText_label .strictMode) Json.blank_nil
    (flagText_write o.strictMode)
  have hentries := EntriesText.more Json.blank_nil hname Json.blank_nil
    (.last Json.blank_nil hmode Json.blank_nil)
  refine ⟨_, ?_, hentries⟩
  rw [writeChars_eq]
  simp only [List.nil_append, List.append_nil]

theorem optionsText_writeChars (o : Options) : OptionsText o o.writeChars := by
  obtain ⟨inner, htext, hentries⟩ := entriesText_writeChars o
  have hobject : ObjectText o _ := .filled hentries (Nat.le_refl 1) (Nat.le_refl 1)
  have hoptions := OptionsText.object Json.blank_nil hobject Json.blank_nil
  rw [htext]
  simpa only [List.nil_append, List.append_nil] using hoptions

theorem readChars_writeChars (o : Options) : readChars o.writeChars = .ok o :=
  (optionsText_writeChars o).readChars_eq

/-- Options are read back from what is written for them, whatever the name of the module, so
different options are written differently. -/
theorem read_write : (∀ o : Options, read o.write = .ok o) ∧ Function.Injective write := by
  have hread (o : Options) : read o.write = .ok o := by
    rw [read, write, String.toList_ofList]
    exact readChars_writeChars o
  refine ⟨hread, fun o o' h => ?_⟩
  have hok : Except.ok o = (.ok o' : Except ReadError Options) := by
    rw [← hread o, h, hread o']
  exact Except.ok.inj hok

/-- A name that looks like the end of the options does not end them. -/
example : write ⟨some "a\",\x1f/", true⟩ =
    "\x7b\"moduleName\":\"a\\\",\\u001f/\",\"strictMode\":true\x7d" := by
  decide

end TemplateScope.Options
