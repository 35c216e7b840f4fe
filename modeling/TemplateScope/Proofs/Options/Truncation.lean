import TemplateScope.Proofs.Json.Cuts
import TemplateScope.Proofs.Options.RoundTrip

/-!
# Options that stop too early or go on too long

An object whose members are all known ends too early wherever it is cut, because each of its parts
does: a key, a value, and the space between them (`EntriesText.stopsEarly_of_cut`). What is written
for options is such an object, so no part of it is taken for it, and behind its last brace there is
nothing but blanks.
-/

namespace TemplateScope.Options

open Json (Blank Cut skipSpace)

/-! ## Values -/

theorem NameText.readModuleName_of_cut {value : Option String} {before raw text : List Char}
    (h : NameText value raw) (hbefore : Blank before) (hcut : Cut text (before ++ raw)) :
    readModuleName text = .error (.text .truncated) := by
  rcases Json.cut_append_iff.1 hcut with hblank | ⟨tail, rfl, htail⟩
  · rw [readModuleName, (hbefore.of_cut hblank).skipSpace_eq_nil]
  rw [readModuleName, hbefore.skipSpace_append]
  cases h with
  | null =>
      rcases Json.cut_cons_iff.1 htail with rfl | ⟨last, rfl, hlast⟩
      · rfl
      · simp [Json.skipSpace_cons (show Json.isSpace 'n' = false from rfl),
          Json.readWord_of_cut hlast]
  | string h =>
      rcases Json.cut_cons_iff.1 htail with rfl | ⟨last, rfl, hlast⟩
      · rfl
      · simp [Json.skipSpace_cons (show Json.isSpace '"' = false from rfl),
          h.readText_of_cut hlast]

theorem FlagText.readStrictMode_of_cut {value : Bool} {before raw text : List Char}
    (h : FlagText value raw) (hbefore : Blank before) (hcut : Cut text (before ++ raw)) :
    readStrictMode text = .error (.text .truncated) := by
  rcases Json.cut_append_iff.1 hcut with hblank | ⟨tail, rfl, htail⟩
  · rw [readStrictMode, (hbefore.of_cut hblank).skipSpace_eq_nil]
  rw [readStrictMode, hbefore.skipSpace_append]
  cases h with
  | on =>
      rcases Json.cut_cons_iff.1 htail with rfl | ⟨last, rfl, hlast⟩
      · rfl
      · simp [Json.skipSpace_cons (show Json.isSpace 't' = false from rfl),
          Json.readWord_of_cut hlast]
  | off =>
      rcases Json.cut_cons_iff.1 htail with rfl | ⟨last, rfl, hlast⟩
      · rfl
      · simp [Json.skipSpace_cons (show Json.isSpace 'f' = false from rfl),
          Json.readWord_of_cut hlast]

/-! ## Members -/

section

variable {m m' : Members} {text : List Char}

theorem KeyText.readMember_of_cut {key label : List Char} (h : KeyText key label)
    (hnew : ∀ field, Field.ofKey? key = some field → ¬ m.has field)
    (hcut : Cut ('"' :: text) label) : readMember m text = .error (.text .truncated) := by
  cases h with
  | @quoted raw _ after hkey hafter =>
      rcases Json.cut_cons_iff.1 hcut with hnil | ⟨_, htext, hcut'⟩
      · cases hnil
      cases htext
      rw [List.append_cons] at hcut'
      rcases Json.cut_append_iff.1 hcut' with hquoted | ⟨tail, rfl, htail⟩
      · rw [readMember, hkey.readText_of_cut hquoted]
      · have hread := hkey.readText_append tail
        rw [← List.append_cons, readMember, hread]
        simp only [hafter.readColon_of_cut htail]
        split
        · next field hfield => rw [if_neg (hnew field hfield)]
        · rfl

theorem KeyText.readMember_of_cut_value {field : Field} {label value : List Char}
    (h : KeyText field.key.toList label) (hnew : ¬ m.has field)
    (hvalue : ∀ tail, Cut tail value → readField m field tail = .error (.text .truncated))
    (hcut : Cut ('"' :: text) (label ++ value)) :
    readMember m text = .error (.text .truncated) := by
  rcases Json.cut_append_iff.1 hcut with hkey | ⟨tail, htext, htail⟩
  · refine h.readMember_of_cut (fun field' hfield => ?_) hkey
    rw [Field.ofKey?_key, Option.some.injEq] at hfield
    rwa [← hfield]
  · obtain ⟨tail', htail', hread⟩ := h.readMember_known hnew tail
    rw [htail'] at htext
    cases htext
    rw [hread, hvalue tail htail]

theorem EntryText.readMember_of_cut {entry : Entry} {raw : List Char} (h : EntryText entry raw)
    (hknown : entry ≠ .other) (hadd : m.add? entry = some m') (hcut : Cut ('"' :: text) raw) :
    readMember m text = .error (.text .truncated) := by
  cases h with
  | @moduleName value label before raw hlabel hbefore h =>
      have hkey : KeyText Field.moduleName.key.toList label := hlabel
      by_cases hnew : m.has .moduleName
      · simp [Members.add?, hnew] at hadd
      · rw [List.append_assoc] at hcut
        refine hkey.readMember_of_cut_value hnew (fun tail htail => ?_) hcut
        rw [readField, h.readModuleName_of_cut hbefore htail]
        rfl
  | @strictMode value label before raw hlabel hbefore h =>
      have hkey : KeyText Field.strictMode.key.toList label := hlabel
      by_cases hnew : m.has .strictMode
      · simp [Members.add?, hnew] at hadd
      · rw [List.append_assoc] at hcut
        refine hkey.readMember_of_cut_value hnew (fun tail htail => ?_) hcut
        rw [readField, h.readStrictMode_of_cut hbefore htail]
        rfl
  | other => exact absurd rfl hknown

end

/-! ## Objects -/

theorem EntryText.head {entry : Entry} {raw : List Char} (h : EntryText entry raw) :
    ∃ tail, raw = '"' :: tail := by
  cases h with
  | moduleName hlabel =>
      cases hlabel
      exact ⟨_, rfl⟩
  | strictMode hlabel =>
      cases hlabel
      exact ⟨_, rfl⟩
  | other hlabel =>
      cases hlabel
      exact ⟨_, rfl⟩

/-- The text ends where a member may begin, or inside the members that begin here. -/
def StopsEarly (m : Members) (text : List Char) : Prop :=
  skipSpace text = [] ∨
    ∃ tail, skipSpace text = '"' :: tail ∧ readMembers m tail = .error (.text .truncated)

theorem stopsEarly_of_blank {m : Members} {text : List Char} (h : Blank text) :
    StopsEarly m text :=
  .inl h.skipSpace_eq_nil

theorem readBehind_of_blank {m : Members} {text : List Char} (h : Blank text) :
    readBehind m text = .error (.text .truncated) := by
  rw [readBehind, h.skipSpace_eq_nil]

theorem StopsEarly.readBehind_comma {m : Members} {text : List Char} (h : StopsEarly m text) :
    readBehind m (',' :: text) = .error (.text .truncated) := by
  rcases h with hend | ⟨tail, hquote, hread⟩
  · rw [readBehind, Json.skipSpace_cons (show Json.isSpace ',' = false from rfl)]
    simp [hend]
  · rw [Options.readBehind_comma hquote, hread]

/-- A text that is cut in front of a member or inside it stops early. Behind the member that hangs
on what comes there. -/
theorem EntryText.stopsEarly_of_cut {entry : Entry} {before raw rest text : List Char}
    {m m' : Members} (h : EntryText entry raw) (hknown : entry ≠ .other)
    (hadd : m.add? entry = some m') (hbefore : Blank before)
    (hcut : Cut text (before ++ (raw ++ rest)))
    (hrest : ∀ tail, Cut tail rest → Json.NoNumber tail ∧
      readBehind m' tail = .error (.text .truncated)) : StopsEarly m text := by
  have hquote : Json.isSpace '"' = false := rfl
  obtain ⟨inner, hraw⟩ := h.head
  rcases Json.cut_append_iff.1 hcut with hblank | ⟨tail, rfl, htail⟩
  · exact stopsEarly_of_blank (hbefore.of_cut hblank)
  rcases Json.cut_append_iff.1 htail with hmember | ⟨last, rfl, hlast⟩
  · have hbegun := hmember
    rw [hraw] at hbegun
    rcases Json.cut_cons_iff.1 hbegun with rfl | ⟨begun, rfl, -⟩
    · rw [List.append_nil]
      exact stopsEarly_of_blank hbefore
    · refine .inr ⟨begun, hbefore.skipSpace_append_cons hquote begun, ?_⟩
      rw [readMembers_eq, h.readMember_of_cut hknown hadd hmember]
  · obtain ⟨hnumber, hbehind⟩ := hrest last hlast
    obtain ⟨begun, hbegun, hread⟩ := h.readMember_append hadd hnumber
    rw [hbegun]
    refine .inr ⟨begun, hbefore.skipSpace_append_cons hquote begun, ?_⟩
    rw [readMembers_eq, hread]
    exact hbehind

theorem EntriesText.stopsEarly_of_cut {entries : List Entry} {inner text : List Char}
    {m m' : Members} (h : EntriesText entries inner) (hknown : Entry.other ∉ entries)
    (hfold : entries.foldlM Members.add? m = some m') (hcut : Cut text (inner ++ ['\x7d'])) :
    StopsEarly m text := by
  induction h generalizing m text with
  | @last entry before raw after hbefore h hafter =>
      have hadd : m.add? entry = some m' := by simpa using hfold
      simp only [List.append_assoc] at hcut
      have hother : entry ≠ .other := by simpa [eq_comm] using hknown
      refine h.stopsEarly_of_cut hother hadd hbefore hcut fun tail htail => ?_
      have hblank := hafter.of_cut_append_singleton htail
      exact ⟨hblank.noNumber, readBehind_of_blank hblank⟩
  | @more entry entries before raw after inner hbefore h hafter _ ih =>
      rw [List.foldlM_cons, Option.bind_eq_bind, Option.bind_eq_some_iff] at hfold
      obtain ⟨m₁, hadd, hfold⟩ := hfold
      simp only [List.mem_cons, not_or] at hknown
      simp only [List.append_assoc, List.cons_append] at hcut
      refine h.stopsEarly_of_cut (Ne.symm hknown.1) hadd hbefore hcut fun tail htail => ?_
      rw [List.append_cons] at htail
      rcases Json.cut_append_iff.1 htail with hblank | ⟨last, rfl, hlast⟩
      · have hblank := hafter.of_cut_append_singleton hblank
        exact ⟨hblank.noNumber, readBehind_of_blank hblank⟩
      · rw [← List.append_cons]
        refine ⟨hafter.noNumber_append (Json.noNumber_comma last), ?_⟩
        rw [readBehind_append_of_blank hafter]
        exact (ih hknown.2 hfold hlast).readBehind_comma

theorem EntriesText.readChars_of_cut {entries : List Entry} {inner text : List Char} {m : Members}
    (h : EntriesText entries inner) (hknown : Entry.other ∉ entries)
    (hfold : entries.foldlM Members.add? {} = some m)
    (hcut : Cut text ('\x7b' :: (inner ++ ['\x7d']))) :
    readChars text = .error (.text .truncated) := by
  rcases Json.cut_cons_iff.1 hcut with rfl | ⟨tail, rfl, htail⟩
  · rfl
  have hbrace := Json.skipSpace_cons (show Json.isSpace '\x7b' = false from rfl) tail
  have hobject : readObject tail = .error (.text .truncated) := by
    rw [readObject]
    rcases h.stopsEarly_of_cut hknown hfold htail with hend | ⟨begun, hquote, hread⟩
    · simp [hend]
    · simp [hquote, hread]
  rw [readChars, hbrace]
  simp [hobject, finish]

/-! ## Texts -/

theorem readChars_of_cut_writeChars {o : Options} {text : List Char}
    (h : Cut text o.writeChars) : readChars text = .error (.text .truncated) := by
  obtain ⟨inner, htext, hentries⟩ := entriesText_writeChars o
  rw [htext] at h
  exact hentries.readChars_of_cut (by simp) rfl h

/-- What is written for options is read back with blanks behind it and with nothing else. Each part
of it that stops before its end, be it empty, ends too early, and with any other text behind it it is
malformed. -/
theorem read_of_cut_or_continued (o : Options) :
    (∀ text : String, text.toList <+: o.write.toList → text ≠ o.write →
        read text = .error (.text .truncated)) ∧
      (∀ rest : String, Blank rest.toList → read (o.write ++ rest) = .ok o) ∧
      ∀ rest : String, ¬ Blank rest.toList →
        read (o.write ++ rest) = .error (.text .malformed) := by
  have hwrite : o.write.toList = o.writeChars := String.toList_ofList
  have happend (rest : String) : read (o.write ++ rest) =
      if (skipSpace rest.toList).isEmpty then .ok o else .error (.text .malformed) := by
    rw [read, String.toList_append, hwrite]
    exact (optionsText_writeChars o).readChars_append rest.toList
  refine ⟨fun text hprefix hne => ?_, fun rest hblank => ?_, fun rest hblank => ?_⟩
  · refine readChars_of_cut_writeChars (Json.cut_iff_prefix.2 ⟨hwrite ▸ hprefix, fun heq => ?_⟩)
    rw [← hwrite] at heq
    exact hne (String.toList_inj.1 heq)
  · rw [happend, if_pos (Json.isEmpty_skipSpace_iff.2 hblank)]
  · rw [happend, if_neg fun h => hblank (Json.isEmpty_skipSpace_iff.1 h)]

/-- A name that looks like the end of an object, cut behind what looks like it. -/
theorem read_of_cut_or_continued_sample :
    "\x7b\"moduleName\":\"\\\"\x7d".toList <+: (write ⟨some "\"\x7d", false⟩).toList ∧
      read "\x7b\"moduleName\":\"\\\"\x7d" = .error (.text .truncated) ∧
      read (write ⟨some "\"\x7d", false⟩ ++ "\n") = .ok ⟨some "\"\x7d", false⟩ ∧
      read (write ⟨some "\"\x7d", false⟩ ++ "\x7d") = .error (.text .malformed) := by
  have hwrite : write ⟨some "\"\x7d", false⟩ =
      "\x7b\"moduleName\":\"\\\"\x7d\",\"strictMode\":false\x7d" := by decide
  have hfront :
      "\x7b\"moduleName\":\"\\\"\x7d".toList <+: (write ⟨some "\"\x7d", false⟩).toList := by
    rw [hwrite]
    exact ⟨"\",\"strictMode\":false\x7d".toList, rfl⟩
  have hne : "\x7b\"moduleName\":\"\\\"\x7d" ≠ write ⟨some "\"\x7d", false⟩ := by
    rw [hwrite]
    decide
  have hblank : Blank "\n".toList := by simp [Blank, Json.isSpace]
  have hother : ¬ Blank "\x7d".toList := by simp [Blank, Json.isSpace]
  obtain ⟨hcut, hbehind, hmore⟩ := read_of_cut_or_continued ⟨some "\"\x7d", false⟩
  exact ⟨hfront, hcut _ hfront hne, hbehind _ hblank, hmore _ hother⟩

end TemplateScope.Options
