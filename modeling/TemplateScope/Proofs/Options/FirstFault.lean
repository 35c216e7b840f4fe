import TemplateScope.Proofs.Options.RoundTrip

/-!
# The first bad member decides

Where an object is right up to the place where a key may begin, the reader stands at that place
with the members so far (`ObjectStart.readChars_append`). A known key that comes again is told there
and then, and a value of the wrong type as soon as its kind is told, so that what is behind them,
be it well formed or not, is never looked at.
-/

namespace TemplateScope.Options

open Json (Blank Decodes)

/-! ## Objects that are not at their end -/

def Entry.field? : Entry → Option Field
  | .moduleName _ => some .moduleName
  | .strictMode _ => some .strictMode
  | .other => none

/-- The beginning of an object, up to a place where a key may begin: behind the opening brace, or
behind a comma after entries of which none says again what was said. -/
inductive ObjectStart : List Entry → List Char → Prop where
  | brace {before blank : List Char} (hbefore : Blank before) (hblank : Blank blank) :
      ObjectStart [] (before ++ '\x7b' :: blank)
  | comma {entries : List Entry} {before inner blank : List Char} (hbefore : Blank before)
      (h : EntriesText entries inner) (hname : (entries.filterMap Entry.moduleName?).length ≤ 1)
      (hmode : (entries.filterMap Entry.strictMode?).length ≤ 1) (hblank : Blank blank) :
      ObjectStart entries (before ++ '\x7b' :: (inner ++ ',' :: blank))

theorem has_of_add? {m m' : Members} {entry : Entry} (h : m.add? entry = some m')
    (field : Field) : m'.has field ↔ m.has field ∨ entry.field? = some field := by
  cases entry with
  | moduleName value =>
      rw [Members.add?, Option.ite_none_left_eq_some, Option.some.injEq] at h
      rw [← h.2]
      cases field with
      | moduleName => simp [Members.has, Entry.field?]
      | strictMode => simp [Members.has, Entry.field?]
  | strictMode value =>
      rw [Members.add?, Option.ite_none_left_eq_some, Option.some.injEq] at h
      rw [← h.2]
      cases field with
      | moduleName => simp [Members.has, Entry.field?]
      | strictMode => simp [Members.has, Entry.field?]
  | other =>
      cases h
      simp [Entry.field?]

theorem has_of_foldlM_add? {entries : List Entry} {m m' : Members}
    (h : entries.foldlM Members.add? m = some m') (field : Field) :
    m'.has field ↔ m.has field ∨ ∃ entry ∈ entries, entry.field? = some field := by
  induction entries generalizing m with
  | nil =>
      cases h
      simp
  | cons entry entries ih =>
      rw [List.foldlM_cons, Option.bind_eq_bind, Option.bind_eq_some_iff] at h
      obtain ⟨m₁, hadd, hfold⟩ := h
      rw [ih hfold, has_of_add? hadd]
      simp [or_assoc]

theorem ObjectStart.readChars_append {entries : List Entry} {start : List Char}
    (h : ObjectStart entries start) :
    ∃ m : Members, (∀ field, m.has field ↔ ∃ entry ∈ entries, entry.field? = some field) ∧
      ∀ tail, readChars (start ++ '"' :: tail) = finish (readMembers m tail) := by
  have hbrace : Json.isSpace '\x7b' = false := rfl
  have hquote : Json.isSpace '"' = false := rfl
  have hnone (field : Field) : ({} : Members).has field = false := by cases field <;> rfl
  cases h with
  | @brace before blank hbefore hblank =>
      refine ⟨{}, fun field => by simp [hnone field], fun tail => ?_⟩
      have hobject : readObject (blank ++ '"' :: tail) = readMembers {} tail := by
        simp [readObject, hblank.skipSpace_append_cons hquote tail]
      rw [List.append_assoc, List.cons_append, readChars, hbefore.skipSpace_append_cons hbrace]
      simp [hobject]
  | @comma _ before inner blank hbefore h hname hmode hblank =>
      have hfold := foldlM_add?_eq_some_iff (m := {}).2 ⟨hname, hmode, rfl⟩
      refine ⟨_, fun field => by rw [has_of_foldlM_add? hfold]; simp [hnone field],
        fun tail => ?_⟩
      obtain ⟨begun, hbegun, hread⟩ :=
        h.readMembers_append hfold (Json.noNumber_comma (blank ++ '"' :: tail))
      rw [readBehind_comma (hblank.skipSpace_append_cons hquote tail)] at hread
      have hobject : readObject (inner ++ ',' :: (blank ++ '"' :: tail)) =
          readMembers {} begun := by
        simp [readObject, hbegun]
      simp only [List.append_assoc, List.cons_append]
      rw [readChars, hbefore.skipSpace_append_cons hbrace]
      simp [hobject, hread]

/-! ## Faults -/

/-- What the value of a member is asked to be. -/
def Field.expected : Field → Expected
  | .moduleName => .string
  | .strictMode => .boolean

/-- Where a value of the wrong type is told from, and what it is told to be. A literal or a string
is told at its end, an array or an object at its opening bracket. -/
inductive WrongToken : Field → List Char → Found → Prop where
  | null : WrongToken .strictMode ['n', 'u', 'l', 'l'] .null
  | string {raw chars : List Char} (h : Decodes raw chars) :
      WrongToken .strictMode ('"' :: (raw ++ ['"'])) (.string (String.ofList chars))
  | flag {value : Bool} {raw : List Char} (h : FlagText value raw) :
      WrongToken .moduleName raw (.boolean value)
  | array (field : Field) : WrongToken field ['['] .sequence
  | object (field : Field) : WrongToken field ['\x7b'] .map

theorem WrongToken.found_append {field : Field} {token : List Char} {kind : Found}
    (h : WrongToken field token kind) (rest : List Char) : found (token ++ rest) = .ok kind := by
  cases h with
  | null =>
      have hword : Json.readWord ['u', 'l', 'l'] ('u' :: 'l' :: 'l' :: rest) = .ok rest :=
        Json.readWord_eq_ok_iff.2 rfl
      simp [found, hword, Except.map]
  | @string raw chars h => simp [found, h.readText_append rest, Json.isDigit, Except.map]
  | flag h =>
      cases h with
      | on =>
          have hword : Json.readWord ['r', 'u', 'e'] ('r' :: 'u' :: 'e' :: rest) = .ok rest :=
            Json.readWord_eq_ok_iff.2 rfl
          simp [found, hword, Except.map]
      | off =>
          have hword : Json.readWord ['a', 'l', 's', 'e'] ('a' :: 'l' :: 's' :: 'e' :: rest) =
              .ok rest := Json.readWord_eq_ok_iff.2 rfl
          simp [found, hword, Except.map]
  | array => rfl
  | object => rfl

def Field.Begins : Field → Char → Prop
  | .moduleName, c => c = 'n' ∨ c = '"'
  | .strictMode, c => c = 't' ∨ c = 'f'

theorem WrongToken.head {field : Field} {token : List Char} {kind : Found}
    (h : WrongToken field token kind) :
    ∃ c tail, token = c :: tail ∧ Json.isSpace c = false ∧ ¬ field.Begins c := by
  cases h with
  | null => exact ⟨'n', _, rfl, rfl, by simp [Field.Begins]⟩
  | string => exact ⟨'"', _, rfl, rfl, by simp [Field.Begins]⟩
  | flag h =>
      cases h with
      | on => exact ⟨'t', _, rfl, rfl, by simp [Field.Begins]⟩
      | off => exact ⟨'f', _, rfl, rfl, by simp [Field.Begins]⟩
  | array => exact ⟨'[', _, rfl, rfl, by cases field <;> simp [Field.Begins]⟩
  | object => exact ⟨'\x7b', _, rfl, rfl, by cases field <;> simp [Field.Begins]⟩

theorem WrongToken.readField_append {field : Field} {token : List Char} {kind : Found}
    (h : WrongToken field token kind) {before : List Char} (hbefore : Blank before)
    (m : Members) (rest : List Char) :
    readField m field (before ++ (token ++ rest)) =
      .error (.data (.invalidType kind field.expected)) := by
  have hfound := h.found_append rest
  obtain ⟨c, tail, rfl, hspace, hc⟩ := h.head
  rw [List.cons_append] at hfound ⊢
  have hskip := hbefore.skipSpace_append_cons hspace (tail ++ rest)
  cases field with
  | moduleName =>
      rw [Field.Begins, not_or] at hc
      have hread : readModuleName (before ++ c :: (tail ++ rest)) =
          .error (.data (.invalidType kind .string)) := by
        simp [readModuleName, hskip, hc, wrongType, hfound]
      rw [readField, hread]
      rfl
  | strictMode =>
      rw [Field.Begins, not_or] at hc
      have hread : readStrictMode (before ++ c :: (tail ++ rest)) =
          .error (.data (.invalidType kind .boolean)) := by
        simp [readStrictMode, hskip, hc, wrongType, hfound]
      rw [readField, hread]
      rfl

/-- That a key comes again is told at its closing quote. -/
theorem readMember_of_has {m : Members} {field : Field} {raw : List Char}
    (h : Decodes raw field.key.toList) (hhas : m.has field) (rest : List Char) :
    readMember m (raw ++ '"' :: rest) = .error (.data (.duplicateField field)) := by
  simp only [readMember, h.readText_append rest, Field.ofKey?_key, if_pos hhas]

/-! ## Texts -/

theorem finish_readMembers_of_error {m : Members} {text : List Char} {e : ReadError}
    (h : readMember m text = .error e) : finish (readMembers m text) = .error e := by
  rw [readMembers_eq, h, finish]

/-- Where an object is right so far, the next key decides if it is one that was there before, and
its value decides if it is of the wrong type. What follows is not looked at. -/
theorem read_of_objectStart {entries : List Entry} {start : List Char}
    (h : ObjectStart entries start) :
    (∀ (field : Field) (raw rest : List Char), Decodes raw field.key.toList →
        (∃ entry ∈ entries, entry.field? = some field) →
        read (String.ofList (start ++ '"' :: (raw ++ '"' :: rest))) =
          .error (.data (.duplicateField field))) ∧
      ∀ (field : Field) (label before token rest : List Char) (kind : Found),
        KeyText field.key.toList label → (∀ entry ∈ entries, entry.field? ≠ some field) →
        Blank before → WrongToken field token kind →
        read (String.ofList (start ++ (label ++ (before ++ (token ++ rest))))) =
          .error (.data (.invalidType kind field.expected)) := by
  obtain ⟨m, hhas, hread⟩ := h.readChars_append
  refine ⟨fun field raw rest hraw hthere => ?_,
    fun field label before token rest kind hlabel hnew hbefore htoken => ?_⟩
  · rw [read, String.toList_ofList, hread]
    exact finish_readMembers_of_error (readMember_of_has hraw ((hhas field).2 hthere) rest)
  · have habsent : ¬ m.has field := by
      rw [hhas field]
      rintro ⟨entry, hmem, hfield⟩
      exact hnew entry hmem hfield
    obtain ⟨tail, htail, hmember⟩ :=
      hlabel.readMember_known habsent (before ++ (token ++ rest))
    rw [htoken.readField_append hbefore] at hmember
    rw [read, String.toList_ofList, htail, hread]
    exact finish_readMembers_of_error hmember

/-- Open behind an unknown member and a module name that is a null. -/
def sampleStart : List Char := "\x7b\"a\":[\x7b\x7d],\"moduleName\":null, ".toList

theorem objectStart_sampleStart : ObjectStart [.other, .moduleName none] sampleStart := by
  have hkey : KeyText ['a'] ['"', 'a', '"', ':'] :=
    .quoted (.plain (by simp [Json.Plain]) .nil) Json.blank_nil
  have hvalue : Json.Value ['[', '\x7b', '\x7d', ']'] :=
    .filled (.last .none Json.blank_nil (.empty .object Json.blank_nil) Json.blank_nil)
  have hother := EntryText.other hkey (by decide) (by decide) Json.blank_nil hvalue
  have hname := EntryText.moduleName (keyText_label .moduleName) Json.blank_nil .null
  have hentries := EntriesText.more Json.blank_nil hother Json.blank_nil
    (.last Json.blank_nil hname Json.blank_nil)
  have hblank : Blank [' '] := by simp [Blank, Json.isSpace]
  exact .comma Json.blank_nil hentries (by decide) (by decide) hblank

/-- The module name comes again with its first letter escaped, or the object that stands for the
strict mode is not even an object. -/
theorem read_of_objectStart_sample :
    ObjectStart [.other, .moduleName none] sampleStart ∧
      read (String.ofList (sampleStart ++ "\"\\u006doduleName\" 7".toList)) =
        .error (.data (.duplicateField .moduleName)) ∧
      read (String.ofList (sampleStart ++ "\"strictMode\": \x7b]".toList)) =
        .error (.data (.invalidType .map .boolean)) := by
  have hletter : Json.Escape ['u', '0', '0', '6', 'd'] 'm' :=
    .scalar (Json.hex4?_eq_some_iff.1 rfl)
  have hrest : Decodes "oduleName".toList "oduleName".toList :=
    Json.decodes_of_plain (by simp [Json.Plain])
  have hkey : Decodes "\\u006doduleName".toList Field.moduleName.key.toList :=
    .escape hletter hrest
  have hblank : Blank [' '] := by simp [Blank, Json.isSpace]
  have hagain : "\"\\u006doduleName\" 7".toList =
      '"' :: ("\\u006doduleName".toList ++ '"' :: [' ', '7']) := rfl
  have hwrong : "\"strictMode\": \x7b]".toList =
      label .strictMode ++ ([' '] ++ (['\x7b'] ++ [']'])) := rfl
  have hread := read_of_objectStart objectStart_sampleStart
  rw [hagain, hwrong]
  exact ⟨objectStart_sampleStart,
    hread.1 .moduleName _ [' ', '7'] hkey ⟨.moduleName none, by simp, rfl⟩,
    hread.2 .strictMode _ _ _ [']'] _ (keyText_label .strictMode) (by simp [Entry.field?]) hblank
      (.object .strictMode)⟩

end TemplateScope.Options
