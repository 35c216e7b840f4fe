import TemplateScope.Options.Reader
import TemplateScope.Proofs.Json.Values
import TemplateScope.Proofs.Options.Language

/-!
# Options are read by their language

The reader accepts a text exactly when it stands for options, and then gives these. What has been
read of an object is kept member by member, so the members are followed one after another.
-/

namespace TemplateScope.Options

open Json (Blank NoNumber skipSpace)

/-! ## Values -/

theorem nameText_of_readModuleName {text rest : List Char} {value : Option String}
    (h : readModuleName text = .ok (value, rest)) :
    ∃ before raw, text = before ++ (raw ++ rest) ∧ Blank before ∧ NameText value raw := by
  unfold readModuleName at h
  split at h
  · cases h
  · next c tail hspace =>
      obtain ⟨before, htext, hbefore⟩ := Json.blank_of_skipSpace_eq hspace
      split at h
      · next hc =>
          split at h
          · cases h
          · next middle hword =>
              cases h
              rw [hc, Json.readWord_eq_ok_iff.1 hword] at htext
              exact ⟨before, ['n', 'u', 'l', 'l'], htext, hbefore, .null⟩
      split at h
      · next hc =>
          split at h
          · cases h
          · next chars middle hstring =>
              cases h
              rcases Json.readText_eq_ok_iff.1 hstring with ⟨raw, rfl, hraw⟩
              rw [hc] at htext
              exact ⟨before, '"' :: (raw ++ ['"']), by simp [htext], hbefore, .string hraw⟩
      · cases h

theorem NameText.readModuleName_append {value : Option String} {before raw : List Char}
    (h : NameText value raw) (hbefore : Blank before) (rest : List Char) :
    readModuleName (before ++ (raw ++ rest)) = .ok (value, rest) := by
  cases h with
  | null =>
      have hspace := hbefore.skipSpace_append_cons (show Json.isSpace 'n' = false from rfl)
        ('u' :: 'l' :: 'l' :: rest)
      have hword : Json.readWord ['u', 'l', 'l'] ('u' :: 'l' :: 'l' :: rest) = .ok rest :=
        Json.readWord_eq_ok_iff.2 rfl
      simp [readModuleName, hspace, hword]
  | @string raw chars h =>
      have hspace := hbefore.skipSpace_append_cons (show Json.isSpace '"' = false from rfl)
        (raw ++ '"' :: rest)
      simp [readModuleName, hspace, h.readText_append rest]

theorem flagText_of_readStrictMode {text rest : List Char} {value : Bool}
    (h : readStrictMode text = .ok (value, rest)) :
    ∃ before raw, text = before ++ (raw ++ rest) ∧ Blank before ∧ FlagText value raw := by
  unfold readStrictMode at h
  split at h
  · cases h
  · next c tail hspace =>
      obtain ⟨before, htext, hbefore⟩ := Json.blank_of_skipSpace_eq hspace
      split at h
      · next hc =>
          split at h
          · cases h
          · next middle hword =>
              cases h
              rw [hc, Json.readWord_eq_ok_iff.1 hword] at htext
              exact ⟨before, ['t', 'r', 'u', 'e'], htext, hbefore, .on⟩
      split at h
      · next hc =>
          split at h
          · cases h
          · next middle hword =>
              cases h
              rw [hc, Json.readWord_eq_ok_iff.1 hword] at htext
              exact ⟨before, ['f', 'a', 'l', 's', 'e'], htext, hbefore, .off⟩
      · cases h

theorem FlagText.readStrictMode_append {value : Bool} {before raw : List Char}
    (h : FlagText value raw) (hbefore : Blank before) (rest : List Char) :
    readStrictMode (before ++ (raw ++ rest)) = .ok (value, rest) := by
  cases h with
  | on =>
      have hspace := hbefore.skipSpace_append_cons (show Json.isSpace 't' = false from rfl)
        ('r' :: 'u' :: 'e' :: rest)
      have hword : Json.readWord ['r', 'u', 'e'] ('r' :: 'u' :: 'e' :: rest) = .ok rest :=
        Json.readWord_eq_ok_iff.2 rfl
      simp [readStrictMode, hspace, hword]
  | off =>
      have hspace := hbefore.skipSpace_append_cons (show Json.isSpace 'f' = false from rfl)
        ('a' :: 'l' :: 's' :: 'e' :: rest)
      have hword : Json.readWord ['a', 'l', 's', 'e'] ('a' :: 'l' :: 's' :: 'e' :: rest) =
          .ok rest := Json.readWord_eq_ok_iff.2 rfl
      simp [readStrictMode, hspace, hword]

theorem readField_eq_ok_iff {m m' : Members} {field : Field} {text rest : List Char} :
    readField m field text = .ok (m', rest) ↔
      match field with
      | .moduleName => ∃ value, readModuleName text = .ok (value, rest) ∧
          { m with moduleName := some value } = m'
      | .strictMode => ∃ value, readStrictMode text = .ok (value, rest) ∧
          { m with strictMode := some value } = m' := by
  cases field with
  | moduleName =>
      rw [readField, Json.bind_eq_ok_iff]
      constructor
      · rintro ⟨⟨value, tail⟩, hvalue, heq⟩
        cases heq
        exact ⟨value, hvalue, rfl⟩
      · rintro ⟨value, hvalue, rfl⟩
        exact ⟨(value, rest), hvalue, rfl⟩
  | strictMode =>
      rw [readField, Json.bind_eq_ok_iff]
      constructor
      · rintro ⟨⟨value, tail⟩, hvalue, heq⟩
        cases heq
        exact ⟨value, hvalue, rfl⟩
      · rintro ⟨value, hvalue, rfl⟩
        exact ⟨(value, rest), hvalue, rfl⟩

/-! ## Members -/

theorem ofKey?_eq_some_iff {key : List Char} {field : Field} :
    Field.ofKey? key = some field ↔ key = field.key.toList := by
  constructor
  · intro h
    unfold Field.ofKey? at h
    split at h
    · next hkey =>
        cases h
        exact hkey
    split at h
    · next hkey =>
        cases h
        exact hkey
    · cases h
  · rintro rfl
    exact Field.ofKey?_key field

theorem ofKey?_eq_none_iff {key : List Char} :
    Field.ofKey? key = none ↔ key ≠ "moduleName".toList ∧ key ≠ "strictMode".toList := by
  constructor
  · intro h
    refine ⟨?_, ?_⟩
    · rintro rfl
      exact absurd h (by decide)
    · rintro rfl
      exact absurd h (by decide)
  · rintro ⟨hname, hmode⟩
    unfold Field.ofKey?
    rw [if_neg (show key ≠ Field.moduleName.key.toList from hname),
      if_neg (show key ≠ Field.strictMode.key.toList from hmode)]

/-- What has been read when one more entry is. What was said may not be said again. -/
def Members.add? (m : Members) : Entry → Option Members
  | .moduleName value =>
      if m.has .moduleName then none else some { m with moduleName := some value }
  | .strictMode value =>
      if m.has .strictMode then none else some { m with strictMode := some value }
  | .other => some m

theorem entryText_of_readMember {m m' : Members} {text rest : List Char}
    (h : readMember m text = .ok (m', rest)) :
    ∃ entry raw, '"' :: text = raw ++ rest ∧ EntryText entry raw ∧ m.add? entry = some m' := by
  unfold readMember at h
  split at h
  · cases h
  · next key middle htext =>
      rcases Json.readText_eq_ok_iff.1 htext with ⟨raw, rfl, hraw⟩
      split at h
      · next field hfield =>
          rw [ofKey?_eq_some_iff] at hfield
          split at h
          · cases h
          · next hnew =>
              split at h
              · cases h
              · next last hcolon =>
                  rcases Json.blank_of_readColon hcolon with ⟨after, rfl, hafter⟩
                  have hlabel := KeyText.quoted hraw hafter
                  rw [hfield] at hlabel
                  rw [readField_eq_ok_iff] at h
                  cases field with
                  | moduleName =>
                      rcases h with ⟨value, hvalue, rfl⟩
                      obtain ⟨before, name, rfl, hbefore, hname⟩ :=
                        nameText_of_readModuleName hvalue
                      exact ⟨_, _, by simp, .moduleName hlabel hbefore hname, if_neg hnew⟩
                  | strictMode =>
                      rcases h with ⟨value, hvalue, rfl⟩
                      obtain ⟨before, flag, rfl, hbefore, hflag⟩ :=
                        flagText_of_readStrictMode hvalue
                      exact ⟨_, _, by simp, .strictMode hlabel hbefore hflag, if_neg hnew⟩
      · next hfield =>
          rcases ofKey?_eq_none_iff.1 hfield with ⟨hname, hmode⟩
          split at h
          · cases h
          · next last hcolon =>
              split at h
              · cases h
              · next tail hskip =>
                  cases h
                  rcases Json.blank_of_readColon hcolon with ⟨after, rfl, hafter⟩
                  obtain ⟨before, value, rfl, hbefore, hvalue⟩ := Json.value_of_skipValue_nil hskip
                  have hlabel := KeyText.quoted hraw hafter
                  exact ⟨.other, _, by simp, .other hlabel hname hmode hbefore hvalue, rfl⟩

section

variable {m m' : Members} {label : List Char}

/-- The reader of a member starts behind the quote of its key. -/
theorem KeyText.readMember_known {field : Field} (h : KeyText field.key.toList label)
    (hnew : ¬ m.has field) (rest : List Char) :
    ∃ tail, label ++ rest = '"' :: tail ∧ readMember m tail = readField m field rest := by
  cases h with
  | @quoted raw _ after hkey hafter =>
      have htext := hkey.readText_append (after ++ ':' :: rest)
      have hcolon := hafter.readColon_append rest
      refine ⟨raw ++ '"' :: (after ++ ':' :: rest), by simp, ?_⟩
      simp only [readMember, htext, Field.ofKey?_key, if_neg hnew, hcolon]

theorem KeyText.readMember_other {key value before rest : List Char} (h : KeyText key label)
    (hkey : Field.ofKey? key = none) (hvalue : Json.Value value) (hbefore : Blank before)
    (hrest : NoNumber rest) :
    ∃ tail, label ++ (before ++ (value ++ rest)) = '"' :: tail ∧
      readMember m tail = .ok (m, rest) := by
  cases h with
  | @quoted raw _ after hraw hafter =>
      have htext := hraw.readText_append (after ++ ':' :: (before ++ (value ++ rest)))
      have hcolon := hafter.readColon_append (before ++ (value ++ rest))
      have hskip := hvalue.skipValue_append hbefore hrest
      refine ⟨raw ++ '"' :: (after ++ ':' :: (before ++ (value ++ rest))), by simp, ?_⟩
      simp only [readMember, htext, hkey, hcolon, hskip]

theorem EntryText.readMember_append {entry : Entry} {raw rest : List Char}
    (h : EntryText entry raw) (hadd : m.add? entry = some m') (hrest : NoNumber rest) :
    ∃ tail, raw ++ rest = '"' :: tail ∧ readMember m tail = .ok (m', rest) := by
  cases h with
  | @moduleName value label before raw hlabel hbefore h =>
      by_cases hnew : m.has .moduleName
      · simp [Members.add?, hnew] at hadd
      · simp only [Members.add?, if_neg hnew, Option.some.injEq] at hadd
        have hkey : KeyText Field.moduleName.key.toList label := hlabel
        rcases hkey.readMember_known hnew (before ++ (raw ++ rest)) with ⟨tail, htail, hread⟩
        refine ⟨tail, by simpa using htail, ?_⟩
        rw [hread]
        exact readField_eq_ok_iff.2 ⟨value, h.readModuleName_append hbefore rest, hadd⟩
  | @strictMode value label before raw hlabel hbefore h =>
      by_cases hnew : m.has .strictMode
      · simp [Members.add?, hnew] at hadd
      · simp only [Members.add?, if_neg hnew, Option.some.injEq] at hadd
        have hkey : KeyText Field.strictMode.key.toList label := hlabel
        rcases hkey.readMember_known hnew (before ++ (raw ++ rest)) with ⟨tail, htail, hread⟩
        refine ⟨tail, by simpa using htail, ?_⟩
        rw [hread]
        exact readField_eq_ok_iff.2 ⟨value, h.readStrictMode_append hbefore rest, hadd⟩
  | @other key label before raw hlabel hname hmode hbefore h =>
      cases hadd
      obtain ⟨tail, htail, hread⟩ :=
        hlabel.readMember_other (ofKey?_eq_none_iff.2 ⟨hname, hmode⟩) h hbefore hrest
      exact ⟨tail, by simpa using htail, hread⟩

end

/-! ## Objects -/

/-- What the reader does behind a member: the object ends there, or another member follows. -/
def readBehind (m : Members) (text : List Char) : Except ReadError (Members × List Char) :=
  match skipSpace text with
  | [] => .error (.text .truncated)
  | c :: rest =>
      if c = '\x7d' then .ok (m, rest)
      else if c = ',' then
        match skipSpace rest with
        | [] => .error (.text .truncated)
        | d :: rest => if d = '"' then readMembers m rest else .error (.text .malformed)
      else .error (.text .malformed)

/-- What the reader does with the members that are left, without the proofs that it ends. -/
theorem readMembers_eq (m : Members) (text : List Char) :
    readMembers m text =
      match readMember m text with
      | .error e => .error e
      | .ok (m, rest) => readBehind m rest := by
  rw [readMembers.eq_def]
  split
  · next hmember => rw [hmember]
  · next hmember =>
      rw [hmember]
      simp only [readBehind]
      split
      · next hspace => rw [hspace]
      · next hspace =>
          rw [hspace]
          simp only
          split
          · rfl
          · split
            · split
              · next hspace' => rw [hspace']
              · next hspace' => rw [hspace']
            · rfl

theorem readBehind_brace (m : Members) (rest : List Char) :
    readBehind m ('\x7d' :: rest) = .ok (m, rest) := by
  rw [readBehind, Json.skipSpace_cons (show Json.isSpace '\x7d' = false from rfl)]
  rfl

theorem readBehind_comma {m : Members} {text rest : List Char} (h : skipSpace text = '"' :: rest) :
    readBehind m (',' :: text) = readMembers m rest := by
  rw [readBehind, Json.skipSpace_cons (show Json.isSpace ',' = false from rfl)]
  simp [h]

theorem readBehind_append_of_blank {m : Members} {blank : List Char} (h : Blank blank)
    (rest : List Char) : readBehind m (blank ++ rest) = readBehind m rest := by
  rw [readBehind, readBehind, h.skipSpace_append]

theorem EntriesText.blank_append {entries : List Entry} {inner blank : List Char}
    (h : EntriesText entries inner) (hblank : Blank blank) :
    EntriesText entries (blank ++ inner) := by
  cases h with
  | last hbefore h hafter =>
      have hentries := EntriesText.last (hblank.append hbefore) h hafter
      simpa only [List.append_assoc] using hentries
  | more hbefore h hafter hrest =>
      have hentries := EntriesText.more (hblank.append hbefore) h hafter hrest
      simpa only [List.append_assoc] using hentries

theorem entriesText_of_readMembers {m m' : Members} {text rest : List Char}
    (h : readMembers m text = .ok (m', rest)) :
    ∃ entries inner, '"' :: text = inner ++ '\x7d' :: rest ∧ EntriesText entries inner ∧
      entries.foldlM Members.add? m = some m' := by
  rw [readMembers_eq] at h
  split at h
  · cases h
  · next m₁ middle hmember =>
      rcases entryText_of_readMember hmember with ⟨entry, raw, htext, hentry, hadd⟩
      unfold readBehind at h
      split at h
      · cases h
      · next c tail hspace =>
          obtain ⟨after, rfl, hafter⟩ := Json.blank_of_skipSpace_eq hspace
          split at h
          · next hc =>
              cases h
              refine ⟨[entry], _, ?_, .last Json.blank_nil hentry hafter, ?_⟩
              · simp [htext, hc]
              · simp [hadd]
          split at h
          · next hc =>
              split at h
              · cases h
              · next d last hspace' =>
                  split at h
                  · next hd =>
                      have hlength : last.length < text.length := by
                        have := readMember_length hmember
                        have := Json.length_lt_of_skipSpace hspace
                        have := Json.length_lt_of_skipSpace hspace'
                        omega
                      obtain ⟨entries, inner, hlast, hentries, hfold⟩ :=
                        entriesText_of_readMembers h
                      obtain ⟨blank, rfl, hblank⟩ := Json.blank_of_skipSpace_eq hspace'
                      have hrest := hentries.blank_append hblank
                      refine ⟨entry :: entries, _, ?_, .more Json.blank_nil hentry hafter hrest, ?_⟩
                      · simp [htext, hc, hd, hlast]
                      · simp [List.foldlM_cons, hadd, hfold]
                  · cases h
          · cases h
termination_by text.length

/-- Members are read one after another, and what is behind the last is left to decide. -/
theorem EntriesText.readMembers_append {m m' : Members} {entries : List Entry}
    {inner rest : List Char} (h : EntriesText entries inner)
    (hfold : entries.foldlM Members.add? m = some m') (hrest : NoNumber rest) :
    ∃ tail, skipSpace (inner ++ rest) = '"' :: tail ∧
      readMembers m tail = readBehind m' rest := by
  have hquote : Json.isSpace '"' = false := rfl
  induction h generalizing m with
  | @last entry before raw after hbefore h hafter =>
      have hadd : m.add? entry = some m' := by simpa using hfold
      rcases h.readMember_append hadd (hafter.noNumber_append hrest) with ⟨tail, htail, hread⟩
      refine ⟨tail, ?_, ?_⟩
      · rw [← hbefore.skipSpace_append_cons hquote tail, ← htail]
        simp
      · rw [readMembers_eq, hread]
        exact readBehind_append_of_blank hafter rest
  | @more entry entries before raw after inner hbefore h hafter _ ih =>
      rw [List.foldlM_cons, Option.bind_eq_bind, Option.bind_eq_some_iff] at hfold
      rcases hfold with ⟨m₁, hadd, hfold⟩
      rcases ih hfold with ⟨next, hnext, hread'⟩
      have hnumber := hafter.noNumber_append (Json.noNumber_comma (inner ++ rest))
      rcases h.readMember_append hadd hnumber with ⟨tail, htail, hread⟩
      refine ⟨tail, ?_, ?_⟩
      · rw [← hbefore.skipSpace_append_cons hquote tail, ← htail]
        simp
      · rw [readMembers_eq, hread]
        exact (readBehind_append_of_blank hafter _).trans ((readBehind_comma hnext).trans hread')

/-- Entries are read one after another exactly when none says again what was said, and then the
first of each kind is what was read. -/
theorem foldlM_add?_eq_some_iff {entries : List Entry} {m m' : Members} :
    entries.foldlM Members.add? m = some m' ↔
      (m.moduleName.toList ++ entries.filterMap Entry.moduleName?).length ≤ 1 ∧
        (m.strictMode.toList ++ entries.filterMap Entry.strictMode?).length ≤ 1 ∧
        m' = ⟨(m.moduleName.toList ++ entries.filterMap Entry.moduleName?).head?,
          (m.strictMode.toList ++ entries.filterMap Entry.strictMode?).head?⟩ := by
  induction entries generalizing m with
  | nil =>
      rcases m with ⟨name, flag⟩
      cases name with
      | none =>
          cases flag with
          | none => simp [eq_comm]
          | some flag => simp [eq_comm]
      | some name =>
          cases flag with
          | none => simp [eq_comm]
          | some flag => simp [eq_comm]
  | cons entry entries ih =>
      rcases m with ⟨name, flag⟩
      cases entry with
      | moduleName value =>
          cases name with
          | none => exact ih
          | some name =>
              constructor
              · intro h
                cases h
              · rintro ⟨hlength, _⟩
                simp [Entry.moduleName?] at hlength
      | strictMode value =>
          cases flag with
          | none => exact ih
          | some flag =>
              constructor
              · intro h
                cases h
              · rintro ⟨_, hlength, _⟩
                simp [Entry.strictMode?] at hlength
      | other => exact ih

theorem toOptions_head? (names : List (Option String)) (flags : List Bool) :
    Members.toOptions ⟨names.head?, flags.head?⟩ = ⟨names.headD none, flags.headD false⟩ := by
  simp only [Members.toOptions, List.headD_eq_head?_getD]
  rfl

theorem objectText_of_readObject {m : Members} {text rest : List Char}
    (h : readObject text = .ok (m, rest)) :
    ∃ value, '\x7b' :: text = value ++ rest ∧ ObjectText m.toOptions value := by
  unfold readObject at h
  split at h
  · cases h
  · next c tail hspace =>
      obtain ⟨blank, rfl, hblank⟩ := Json.blank_of_skipSpace_eq hspace
      split at h
      · next hc =>
          cases h
          exact ⟨'\x7b' :: (blank ++ ['\x7d']), by simp [hc], .empty hblank⟩
      split at h
      · next hc =>
          rcases entriesText_of_readMembers h with ⟨entries, inner, htail, hentries, hfold⟩
          rcases foldlM_add?_eq_some_iff.1 hfold with ⟨hname, hmode, rfl⟩
          refine ⟨'\x7b' :: (blank ++ inner ++ ['\x7d']), by simp [hc, htail], ?_⟩
          rw [toOptions_head?]
          exact .filled (hentries.blank_append hblank) hname hmode
      · cases h

theorem ObjectText.readObject_append {o : Options} {value : List Char} (h : ObjectText o value)
    (rest : List Char) :
    ∃ tail m, value ++ rest = '\x7b' :: tail ∧ readObject tail = .ok (m, rest) ∧
      m.toOptions = o := by
  cases h with
  | @empty blank h =>
      have hclosing := h.skipSpace_append_cons (show Json.isSpace '\x7d' = false from rfl) rest
      refine ⟨blank ++ '\x7d' :: rest, {}, by simp, ?_, rfl⟩
      simp [readObject, hclosing]
  | @filled entries inner h hname hmode =>
      have hfold : entries.foldlM Members.add? {} =
          some ⟨(entries.filterMap Entry.moduleName?).head?,
            (entries.filterMap Entry.strictMode?).head?⟩ :=
        foldlM_add?_eq_some_iff.2 ⟨hname, hmode, rfl⟩
      have hnumber : NoNumber ('\x7d' :: rest) := Json.noNumber_closing .object rest
      obtain ⟨tail, htail, hread⟩ := h.readMembers_append hfold hnumber
      refine ⟨inner ++ '\x7d' :: rest, _, by simp, ?_, toOptions_head? _ _⟩
      rw [readObject, htail]
      exact hread.trans (readBehind_brace _ rest)

/-! ## Arrays -/

theorem blank_of_readArrayEnd {m m' : Members} {text rest : List Char}
    (h : readArrayEnd m text = .ok (m', rest)) :
    ∃ blank, text = blank ++ ']' :: rest ∧ Blank blank ∧ m' = m := by
  unfold readArrayEnd at h
  split at h
  · cases h
  · next c tail hspace =>
      obtain ⟨blank, rfl, hblank⟩ := Json.blank_of_skipSpace_eq hspace
      split at h
      · next hc =>
          cases h
          exact ⟨blank, by rw [hc], hblank, rfl⟩
      · cases h

theorem flag_of_readSecondElement {m m' : Members} {text rest : List Char}
    (h : readSecondElement m text = .ok (m', rest)) :
    ∃ after tail, text = after ++ tail ∧ Blank after ∧
      (tail = ']' :: rest ∧ m' = m ∨
        ∃ before raw behind flag, tail = ',' :: before ++ raw ++ behind ++ ']' :: rest ∧
          Blank before ∧ FlagText flag raw ∧ Blank behind ∧
          m' = { m with strictMode := some flag }) := by
  unfold readSecondElement at h
  split at h
  · cases h
  · next c tail hspace =>
      obtain ⟨after, rfl, hafter⟩ := Json.blank_of_skipSpace_eq hspace
      split at h
      · next hc =>
          cases h
          exact ⟨after, _, rfl, hafter, .inl ⟨by rw [hc], rfl⟩⟩
      split at h
      · next hc =>
          rcases Json.bind_eq_ok_iff.1 h with ⟨⟨m₁, last⟩, hfield, hend⟩
          rcases readField_eq_ok_iff.1 hfield with ⟨flag, hflag, rfl⟩
          rcases flagText_of_readStrictMode hflag with ⟨before, raw, rfl, hbefore, hraw⟩
          rcases blank_of_readArrayEnd hend with ⟨behind, rfl, hbehind, rfl⟩
          refine ⟨after, _, rfl, hafter, .inr ⟨before, raw, behind, flag, ?_, hbefore, hraw,
            hbehind, rfl⟩⟩
          simp [hc]
      · cases h

theorem arrayText_of_readArray {m : Members} {text rest : List Char}
    (h : readArray text = .ok (m, rest)) :
    ∃ value, '[' :: text = value ++ rest ∧ ArrayText m.toOptions value := by
  unfold readArray at h
  split at h
  · cases h
  · next c tail hspace =>
      obtain ⟨blank, htext, hblank⟩ := Json.blank_of_skipSpace_eq hspace
      split at h
      · next hc =>
          cases h
          exact ⟨'[' :: (blank ++ [']']), by simp [htext, hc], .empty hblank⟩
      · rcases Json.bind_eq_ok_iff.1 h with ⟨⟨m₁, middle⟩, hfield, hsecond⟩
        rcases readField_eq_ok_iff.1 hfield with ⟨name, hname, rfl⟩
        rcases nameText_of_readModuleName hname with ⟨before, raw, hfirst, hbefore, hraw⟩
        rw [hfirst] at htext
        have hbefore' := hblank.append hbefore
        rcases flag_of_readSecondElement hsecond with ⟨after, last, rfl, hafter, hlast⟩
        rcases hlast with ⟨rfl, rfl⟩ | ⟨behind, raw', after', flag, rfl, hbehind, hraw', hafter',
          rfl⟩
        · exact ⟨_, by simp [htext], .name hbefore' hraw hafter⟩
        · exact ⟨_, by simp [htext], .both hbefore' hraw hafter hbehind hraw' hafter'⟩

theorem NameText.readArray_append {value : Option String} {before raw : List Char}
    (h : NameText value raw) (hbefore : Blank before) (rest : List Char) :
    readArray (before ++ (raw ++ rest)) = readSecondElement ⟨some value, none⟩ rest := by
  have hhead : ∃ c tail, raw ++ rest = c :: tail ∧ Json.isSpace c = false ∧ c ≠ ']' := by
    cases h with
    | null => exact ⟨'n', _, rfl, rfl, by decide⟩
    | string _ => exact ⟨'"', _, rfl, rfl, by decide⟩
  rcases hhead with ⟨c, tail, htail, hspace, hc⟩
  have hfield : readField {} .moduleName (c :: tail) = .ok (⟨some value, none⟩, rest) := by
    rw [readField_eq_ok_iff, ← htail]
    exact ⟨value, h.readModuleName_append Json.blank_nil rest, rfl⟩
  rw [readArray, htail, hbefore.skipSpace_append_cons hspace]
  simp only [if_neg hc, hfield, bind, Except.bind]

theorem ArrayText.readArray_append {o : Options} {value : List Char} (h : ArrayText o value)
    (rest : List Char) :
    ∃ tail m, value ++ rest = '[' :: tail ∧ readArray tail = .ok (m, rest) ∧
      m.toOptions = o := by
  have hbracket : Json.isSpace ']' = false := rfl
  cases h with
  | @empty blank h =>
      have hclosing := h.skipSpace_append_cons hbracket rest
      refine ⟨blank ++ ']' :: rest, {}, by simp, ?_, rfl⟩
      simp [readArray, hclosing]
  | @name value before raw after hbefore h hafter =>
      have hclosing := hafter.skipSpace_append_cons hbracket rest
      refine ⟨before ++ (raw ++ (after ++ ']' :: rest)), ⟨some value, none⟩, by simp, ?_, rfl⟩
      rw [h.readArray_append hbefore]
      simp [readSecondElement, hclosing]
  | @both value flag before raw after before' raw' after' hbefore h hafter hbefore' h' hafter' =>
      have hcomma := hafter.skipSpace_append_cons (show Json.isSpace ',' = false from rfl)
        (before' ++ (raw' ++ (after' ++ ']' :: rest)))
      have hclosing := hafter'.skipSpace_append_cons hbracket rest
      have hfield : readField ⟨some value, none⟩ .strictMode
          (before' ++ (raw' ++ (after' ++ ']' :: rest))) =
            .ok (⟨some value, some flag⟩, after' ++ ']' :: rest) :=
        readField_eq_ok_iff.2 ⟨flag, h'.readStrictMode_append hbefore' _, rfl⟩
      refine ⟨before ++ (raw ++ (after ++ ',' :: (before' ++ (raw' ++ (after' ++ ']' :: rest))))),
        ⟨some value, some flag⟩, by simp, ?_, rfl⟩
      rw [h.readArray_append hbefore]
      simp [readSecondElement, hcomma, hfield, readArrayEnd, hclosing, bind, Except.bind]

/-! ## Texts -/

theorem finish_eq_ok_iff {read : Except ReadError (Members × List Char)} {o : Options} :
    finish read = .ok o ↔ ∃ m rest, read = .ok (m, rest) ∧ Blank rest ∧ m.toOptions = o := by
  cases read with
  | error _ => simp [finish]
  | ok pair =>
      rcases pair with ⟨m, rest⟩
      constructor
      · intro h
        simp only [finish] at h
        split at h
        · next hempty =>
            cases h
            exact ⟨m, rest, rfl, Json.isEmpty_skipSpace_iff.1 hempty, rfl⟩
        · cases h
      · rintro ⟨_, _, ⟨rfl, rfl⟩, hblank, rfl⟩
        rw [finish, if_pos (Json.isEmpty_skipSpace_iff.2 hblank)]

theorem optionsText_of_readChars {text : List Char} {o : Options}
    (h : readChars text = .ok o) : OptionsText o text := by
  unfold readChars at h
  split at h
  · cases h
  · next c tail hspace =>
      obtain ⟨before, rfl, hbefore⟩ := Json.blank_of_skipSpace_eq hspace
      split at h
      · next hc =>
          rcases finish_eq_ok_iff.1 h with ⟨m, rest, hread, hrest, rfl⟩
          rcases objectText_of_readObject hread with ⟨value, hvalue, hobject⟩
          rw [hc, hvalue, ← List.append_assoc]
          exact .object hbefore hobject hrest
      split at h
      · next hc =>
          rcases finish_eq_ok_iff.1 h with ⟨m, rest, hread, hrest, rfl⟩
          rcases arrayText_of_readArray hread with ⟨value, hvalue, harray⟩
          rw [hc, hvalue, ← List.append_assoc]
          exact .array hbefore harray hrest
      · cases h

theorem ObjectText.finish_append {o : Options} {value : List Char} (h : ObjectText o value)
    (rest : List Char) :
    ∃ tail, value ++ rest = '\x7b' :: tail ∧ finish (readObject tail) =
      if (skipSpace rest).isEmpty then .ok o else .error (.text .malformed) := by
  obtain ⟨tail, m, hvalue, hread, rfl⟩ := h.readObject_append rest
  exact ⟨tail, hvalue, by rw [hread, finish]⟩

theorem ArrayText.finish_append {o : Options} {value : List Char} (h : ArrayText o value)
    (rest : List Char) :
    ∃ tail, value ++ rest = '[' :: tail ∧ finish (readArray tail) =
      if (skipSpace rest).isEmpty then .ok o else .error (.text .malformed) := by
  obtain ⟨tail, m, hvalue, hread, rfl⟩ := h.readArray_append rest
  exact ⟨tail, hvalue, by rw [hread, finish]⟩

theorem OptionsText.readChars_append {o : Options} {text : List Char} (h : OptionsText o text)
    (rest : List Char) : readChars (text ++ rest) =
      if (skipSpace rest).isEmpty then .ok o else .error (.text .malformed) := by
  cases h with
  | @object before value after hbefore h hafter =>
      obtain ⟨tail, hvalue, hfinish⟩ := h.finish_append (after ++ rest)
      rw [hafter.skipSpace_append] at hfinish
      rw [List.append_assoc, List.append_assoc, hvalue, readChars,
        hbefore.skipSpace_append_cons (show Json.isSpace '\x7b' = false from rfl), ← hfinish]
      rfl
  | @array before value after hbefore h hafter =>
      obtain ⟨tail, hvalue, hfinish⟩ := h.finish_append (after ++ rest)
      rw [hafter.skipSpace_append] at hfinish
      rw [List.append_assoc, List.append_assoc, hvalue, readChars,
        hbefore.skipSpace_append_cons (show Json.isSpace '[' = false from rfl), ← hfinish]
      rfl

theorem OptionsText.readChars_eq {o : Options} {text : List Char} (h : OptionsText o text) :
    readChars text = .ok o := by
  have hread := h.readChars_append []
  rwa [List.append_nil] at hread

/-- Reading succeeds exactly on the texts that stand for options, and gives the options that they
stand for. -/
theorem read_eq_ok_iff (text : String) (o : Options) :
    read text = .ok o ↔ OptionsText o text.toList := by
  constructor
  · intro h
    exact optionsText_of_readChars h
  · intro h
    exact h.readChars_eq

end TemplateScope.Options
