import TemplateScope.Options.Basic
import TemplateScope.Proofs.Json.Grammar

/-!
# The language of options texts

Which texts stand for options, and for which. Options are an object with members of any order, of
which those that say the same come once at most, or an array that may be cut short. What is not
said is left open: no module, and no strict mode.
-/

namespace TemplateScope.Options

open Json (Blank Decodes)

/-! ## Values -/

inductive NameText : Option String → List Char → Prop where
  | null : NameText none ['n', 'u', 'l', 'l']
  | string {raw chars : List Char} (h : Decodes raw chars) :
      NameText (some (String.ofList chars)) ('"' :: (raw ++ ['"']))

inductive FlagText : Bool → List Char → Prop where
  | on : FlagText true ['t', 'r', 'u', 'e']
  | off : FlagText false ['f', 'a', 'l', 's', 'e']

/-! ## Objects -/

inductive Entry where
  | moduleName (value : Option String)
  | strictMode (value : Bool)
  | other
deriving DecidableEq, Repr

namespace Entry

def moduleName? : Entry → Option (Option String)
  | .moduleName value => some value
  | _ => none

def strictMode? : Entry → Option Bool
  | .strictMode value => some value
  | _ => none

end Entry

/-- A key in quotes and the colon behind it. Keys are compared by what they decode to. -/
inductive KeyText : List Char → List Char → Prop where
  | quoted {raw key after : List Char} (h : Decodes raw key) (hafter : Blank after) :
      KeyText key ('"' :: (raw ++ '"' :: (after ++ [':'])))

/-- The text of a member, from the quote of its key to the end of its value. A value that nobody
asks for may be any. -/
inductive EntryText : Entry → List Char → Prop where
  | moduleName {value : Option String} {label before raw : List Char}
      (hlabel : KeyText "moduleName".toList label) (hbefore : Blank before)
      (h : NameText value raw) : EntryText (.moduleName value) (label ++ before ++ raw)
  | strictMode {value : Bool} {label before raw : List Char}
      (hlabel : KeyText "strictMode".toList label) (hbefore : Blank before)
      (h : FlagText value raw) : EntryText (.strictMode value) (label ++ before ++ raw)
  | other {key label before raw : List Char} (hlabel : KeyText key label)
      (hname : key ≠ "moduleName".toList) (hmode : key ≠ "strictMode".toList)
      (hbefore : Blank before) (h : Json.Value raw) : EntryText .other (label ++ before ++ raw)

inductive EntriesText : List Entry → List Char → Prop where
  | last {entry : Entry} {before raw after : List Char} (hbefore : Blank before)
      (h : EntryText entry raw) (hafter : Blank after) :
      EntriesText [entry] (before ++ raw ++ after)
  | more {entry : Entry} {entries : List Entry} {before raw after rest : List Char}
      (hbefore : Blank before) (h : EntryText entry raw) (hafter : Blank after)
      (hrest : EntriesText entries rest) :
      EntriesText (entry :: entries) (before ++ raw ++ after ++ ',' :: rest)

inductive ObjectText : Options → List Char → Prop where
  | empty {blank : List Char} (h : Blank blank) :
      ObjectText ⟨none, false⟩ ('\x7b' :: (blank ++ ['\x7d']))
  | filled {entries : List Entry} {inner : List Char} (h : EntriesText entries inner)
      (hname : (entries.filterMap Entry.moduleName?).length ≤ 1)
      (hmode : (entries.filterMap Entry.strictMode?).length ≤ 1) :
      ObjectText
        ⟨(entries.filterMap Entry.moduleName?).headD none,
          (entries.filterMap Entry.strictMode?).headD false⟩
        ('\x7b' :: (inner ++ ['\x7d']))

/-! ## Arrays -/

inductive ArrayText : Options → List Char → Prop where
  | empty {blank : List Char} (h : Blank blank) :
      ArrayText ⟨none, false⟩ ('[' :: (blank ++ [']']))
  | name {value : Option String} {before raw after : List Char} (hbefore : Blank before)
      (h : NameText value raw) (hafter : Blank after) :
      ArrayText ⟨value, false⟩ ('[' :: (before ++ raw ++ after ++ [']']))
  | both {value : Option String} {flag : Bool}
      {before raw after before' raw' after' : List Char} (hbefore : Blank before)
      (h : NameText value raw) (hafter : Blank after) (hbefore' : Blank before')
      (h' : FlagText flag raw') (hafter' : Blank after') :
      ArrayText ⟨value, flag⟩
        ('[' :: (before ++ raw ++ after ++ ',' :: before' ++ raw' ++ after' ++ [']']))

/-! ## Texts -/

/-- The texts that stand for options. -/
inductive OptionsText : Options → List Char → Prop where
  | object {o : Options} {before value after : List Char} (hbefore : Blank before)
      (h : ObjectText o value) (hafter : Blank after) : OptionsText o (before ++ value ++ after)
  | array {o : Options} {before value after : List Char} (hbefore : Blank before)
      (h : ArrayText o value) (hafter : Blank after) : OptionsText o (before ++ value ++ after)

end TemplateScope.Options
