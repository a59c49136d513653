-- Expressions as documents. Every form has its shape: its keys, and what
-- stands under them. A document of a shape is read as the form that has it and as
-- no other, though forms share keys, are tried one after the other, and pass over
-- keys that they do not know.
import Dealer.Proofs.Entries
import Dealer.Rule
import Mathlib.Data.Option.Basic

namespace Dealer

/-! ## Objects by their fields -/

/-- Those of some fields that are there. -/
def ByName.present {α : Type} (fields : List (String × Option α)) : List (String × α) :=
  fields.filterMap fun field => field.2.map fun a => (field.1, a)

/-- The object with those of some fields that are there. -/
def Document.ofFields (fields : List (String × Option Document)) : Document :=
  .ofMembers (ByName.present fields)

theorem ByName.get?_putAll_present {α : Type} {fields : List (String × Option α)}
    (h : (fields.map Prod.fst).Nodup) (entries : ByName α) (key : String) :
    (entries.putAll (present fields)).get? key =
      (List.lookup key fields).join.or (entries.get? key) := by
  induction fields generalizing entries with
  | nil => rfl
  | cons field fields ih =>
    obtain ⟨name, value⟩ := field
    obtain ⟨hnew, hothers⟩ := List.nodup_cons.mp h
    -- No other field has the key, so what is written here is not written over.
    have absent : List.lookup name fields = none := by
      rw [List.lookup_eq_none_iff]
      intro field hmem
      rw [bne_iff_ne]
      intro heq
      exact hnew (List.mem_map.mpr ⟨field, hmem, heq.symm⟩)
    rw [List.lookup_cons]
    cases value with
    | none =>
      show (entries.putAll (present fields)).get? key = _
      rw [ih hothers]
      by_cases hkey : key = name
      · simp [hkey, absent]
      · simp [beq_eq_false_iff_ne.mpr hkey]
    | some a =>
      show ((entries.put name a).putAll (present fields)).get? key = _
      rw [ih hothers, get?_put]
      by_cases hkey : key = name
      · simp [hkey, absent]
      · simp [hkey, beq_eq_false_iff_ne.mpr hkey]

/-- Under each key of an object stands what the field of the key says. -/
theorem Document.ofFields_members {fields : List (String × Option Document)}
    (h : (fields.map Prod.fst).Nodup) : ∃ members, ofFields fields = .object members ∧
      ∀ key, ByName.get? key members = (List.lookup key fields).join :=
  ⟨_, rfl, fun key => by
    rw [ByName.get?_putAll_present h]
    exact Option.or_none⟩

/-- Fields whose keys rise stay where they are. -/
theorem Document.ofFields_of_rising {fields : List (String × Option Document)}
    (h : (fields.map Prod.fst).Pairwise (· < ·)) :
    ofFields fields = .object (ByName.present fields) := by
  have rising : ByName.Rising (ByName.present fields) := by
    unfold ByName.Rising ByName.names ByName.present
    rw [List.pairwise_map, List.pairwise_filterMap]
    refine (List.pairwise_map.mp h).imp fun hlt => ?_
    intro e he e' he'
    obtain ⟨d, -, rfl⟩ := Option.map_eq_some_iff.mp he
    obtain ⟨d', -, rfl⟩ := Option.map_eq_some_iff.mp he'
    exact hlt
  have left := ByName.leftBy_iff.mp ⟨rising, fun _ => rising.get?_reverse.symm⟩
  rw [ofFields, ofMembers, ← left]

/-! ## Quantities -/

theorem Arith.ofKey?_key (op : Arith) : ofKey? op.key = some op := by cases op <;> decide

theorem SetOp.ofKey?_key (op : SetOp) : ofKey? op.key = some op := by cases op <;> decide

namespace Quantity

mutual

/-- A quantity has the shape of a document. A number may be written as a whole number that is
rounded to it, or as a double. -/
inductive WrittenAs : Quantity → Document → Prop
  | whole (n : Int) : WrittenAs (.number (Float.ofInt n)) (.int n)
  | number (x : Float) : WrittenAs (.number x) (.float x)
  | param (name : String) : WrittenAs (.param name) (.text name)
  | fold (op : Arith) {operands : List Quantity} {ds : List Document}
      (h : AllWrittenAs operands ds) : WrittenAs (.fold op operands) (.object [(op.key, .list ds)])

inductive AllWrittenAs : List Quantity → List Document → Prop
  | nil : AllWrittenAs [] []
  | cons {q : Quantity} {qs : List Quantity} {d : Document} {ds : List Document}
      (h : WrittenAs q d) (hs : AllWrittenAs qs ds) : AllWrittenAs (q :: qs) (d :: ds)

end

mutual

theorem toDocument_written : ∀ q : Quantity, q.WrittenAs q.toDocument
  | .number x => by rw [toDocument]; exact .number x
  | .param name => by rw [toDocument]; exact .param name
  | .fold op operands => by rw [toDocument]; exact .fold op (toDocuments_written operands)

theorem toDocuments_written : ∀ qs : List Quantity, AllWrittenAs qs (toDocuments qs)
  | [] => by rw [toDocuments]; exact .nil
  | q :: qs => by rw [toDocuments]; exact .cons (toDocument_written q) (toDocuments_written qs)

end

theorem toDocument_written_map (q : Option Quantity) :
    Option.Rel WrittenAs q (q.map toDocument) := by
  cases q with
  | none => exact .none
  | some q => exact .some q.toDocument_written

mutual

theorem WrittenAs.read : ∀ {q : Quantity} {d : Document}, q.WrittenAs d → ofDocument? d = some q
  | _, _, .whole n => by rw [ofDocument?]
  | _, _, .number x => by rw [ofDocument?]
  | _, _, .param name => by rw [ofDocument?]
  | _, _, .fold op h => by rw [ofDocument?, Arith.ofKey?_key, h.read]; rfl

theorem AllWrittenAs.read : ∀ {qs : List Quantity} {ds : List Document}, AllWrittenAs qs ds →
    ofDocuments? ds = some qs
  | _, _, .nil => by rw [ofDocuments?]
  | _, _, .cons h hs => by rw [ofDocuments?, h.read, hs.read]; rfl

end

end Quantity

/-! ## Flags, sets and matchers -/

namespace Flag

mutual

theorem ofDocument?_toDocument : ∀ f : Flag, ofDocument? f.toDocument = some f
  | .const b => by rw [toDocument, ofDocument?]
  | .param name => by rw [toDocument, ofDocument?]
  | .and parts => by rw [toDocument, ofDocument?, ofDocuments?_toDocuments parts]; rfl
  | .or parts => by rw [toDocument, ofDocument?, ofDocuments?_toDocuments parts]; rfl
  | .not part => by rw [toDocument, ofDocument?, ofDocument?_toDocument part]; rfl

theorem ofDocuments?_toDocuments : ∀ fs : List Flag, ofDocuments? (toDocuments fs) = some fs
  | [] => by rw [toDocuments, ofDocuments?]
  | f :: fs => by
    rw [toDocuments, ofDocuments?, ofDocument?_toDocument f, ofDocuments?_toDocuments fs]
    rfl

end

end Flag

namespace LabelSet

mutual

theorem ofDocument?_toDocument : ∀ s : LabelSet, ofDocument? s.toDocument = some s
  | .label s => by rw [toDocument, ofDocument?]
  | .list parts => by rw [toDocument, ofDocument?, ofDocuments?_toDocuments parts]; rfl
  | .fold op parts => by
    rw [toDocument, ofDocument?, SetOp.ofKey?_key, ofDocuments?_toDocuments parts]
    rfl

theorem ofDocuments?_toDocuments : ∀ ss : List LabelSet, ofDocuments? (toDocuments ss) = some ss
  | [] => by rw [toDocuments, ofDocuments?]
  | s :: ss => by
    rw [toDocuments, ofDocuments?, ofDocument?_toDocument s, ofDocuments?_toDocuments ss]
    rfl

end

/-- The object of an operation is read as this operation. -/
theorem operation?_of_key (op : SetOp) (parts : List LabelSet) :
    operation? (.object [(op.key, .list (toDocuments parts))]) = some (op, parts) := by
  have read := ofDocument?_toDocument (.fold op parts)
  rw [toDocument] at read
  rw [operation?, read]

end LabelSet

namespace Matcher

mutual

theorem ofDocument?_toDocument : ∀ m : Matcher, ofDocument? m.toDocument = some m
  | .text s => by rw [toDocument, ofDocument?]
  | .any parts => by rw [toDocument, ofDocument?, ofDocuments?_toDocuments parts]; rfl
  | .test t s => by rw [toDocument]; cases t <;> rfl
  | .pattern p => by
    rw [toDocument, ofDocument?, PatternText.eq_of_text_eq (p := .ofText p.text) (q := p) rfl]
  | .all note => by rw [toDocument, ofDocument?]
  | .not part => by rw [toDocument, ofDocument?, ofDocument?_toDocument part]; rfl
  | .set op parts => by
    rw [toDocument, ofDocument?, LabelSet.operation?_of_key op parts]
    · rfl
    -- No operation has one of the keys that are tried before.
    all_goals cases op <;> decide

theorem ofDocuments?_toDocuments : ∀ ms : List Matcher, ofDocuments? (toDocuments ms) = some ms
  | [] => by rw [toDocuments, ofDocuments?]
  | m :: ms => by
    rw [toDocuments, ofDocuments?, ofDocument?_toDocument m, ofDocuments?_toDocuments ms]
    rfl

end

end Matcher

/-! ## Decks -/

namespace Deck

mutual

/-- A deck has the shape of a document: an object has those fields of its form that are there, and
no others. -/
inductive WrittenAs : Deck → Document → Prop
  | label (s : String) : WrittenAs (.label s) (.text s)
  | concat {parts : List Deck} {ds : List Document} (h : AllWrittenAs parts ds) :
      WrittenAs (.concat parts) (.list ds)
  | choose {n : Quantity} {source : Deck} {count d : Document} (hn : n.WrittenAs count)
      (hd : WrittenAs source d) :
      WrittenAs (.choose n source) (.ofFields [("choose", some count), ("from", some d)])
  | chooseGroups {n : Quantity} {groups : List Deck} {count : Document} {ds : List Document}
      (hn : n.WrittenAs count) (hds : AllWrittenAs groups ds) :
      WrittenAs (.chooseGroups n groups)
        (.ofFields [("choose", some count), ("grouping", some (.list ds))])
  | draw {n : Quantity} {source : Deck} {count d : Document} (hn : n.WrittenAs count)
      (hd : WrittenAs source d) :
      WrittenAs (.draw n source) (.ofFields [("from", some d), ("repeat", some count)])
  | drawGroups {n : Quantity} {groups : List Deck} {count : Document} {ds : List Document}
      (hn : n.WrittenAs count) (hds : AllWrittenAs groups ds) :
      WrittenAs (.drawGroups n groups)
        (.ofFields [("grouping", some (.list ds)), ("repeat", some count)])
  | duplicate {n : Quantity} {kinds : Option Quantity} {source : Deck} {count d : Document}
      {of : Option Document} (hn : n.WrittenAs count)
      (hof : Option.Rel Quantity.WrittenAs kinds of) (hd : WrittenAs source d) :
      WrittenAs (.duplicate n kinds source)
        (.ofFields [("duplicate", some count), ("from", some d), ("of", of)])
  | first {n : Quantity} {source : Deck} {count d : Document} (hn : n.WrittenAs count)
      (hd : WrittenAs source d) :
      WrittenAs (.first n source) (.ofFields [("first", some count), ("from", some d)])
  | last {n : Quantity} {source : Deck} {count d : Document} (hn : n.WrittenAs count)
      (hd : WrittenAs source d) :
      WrittenAs (.last n source) (.ofFields [("from", some d), ("last", some count)])
  | cross {left right : Deck} {a b : Document} (separator : Option String)
      (ha : WrittenAs left a) (hb : WrittenAs right b) :
      WrittenAs (.cross left right separator)
        (.ofFields [("cross", some a), ("using", separator.map .text), ("with", some b)])
  | zip {left right : Deck} {a b : Document} (separator : Option String)
      (ha : WrittenAs left a) (hb : WrittenAs right b) :
      WrittenAs (.zip left right separator)
        (.ofFields [("using", separator.map .text), ("with", some b), ("zip", some a)])
  | cond (test : Flag) {yes : Deck} {no : Option Deck} {a : Document} {b : Option Document}
      (ha : WrittenAs yes a) (hb : OrWrittenAs no b) :
      WrittenAs (.cond test yes no)
        (.ofFields [("else", b), ("if", some test.toDocument), ("then", some a)])
  | set (op : SetOp) (parts : List LabelSet) :
      WrittenAs (.set op parts) (.object [(op.key, .list (LabelSet.toDocuments parts))])

inductive AllWrittenAs : List Deck → List Document → Prop
  | nil : AllWrittenAs [] []
  | cons {deck : Deck} {decks : List Deck} {d : Document} {ds : List Document}
      (h : WrittenAs deck d) (hs : AllWrittenAs decks ds) : AllWrittenAs (deck :: decks) (d :: ds)

inductive OrWrittenAs : Option Deck → Option Document → Prop
  | none : OrWrittenAs none none
  | some {deck : Deck} {d : Document} (h : WrittenAs deck d) : OrWrittenAs (some deck) (some d)

end

/-- The fields of a form whose keys rise make its document as they stand. -/
theorem WrittenAs.inOrder {deck : Deck} {fields : List (String × Option Document)}
    (h : deck.WrittenAs (.ofFields fields)) (keys : List String) (hkeys : keys.Pairwise (· < ·))
    (hfields : fields.map Prod.fst = keys) :
    deck.WrittenAs (.object (ByName.present fields)) := by
  rwa [Document.ofFields_of_rising (hfields ▸ hkeys)] at h

mutual

theorem toDocument_written : ∀ deck : Deck, deck.WrittenAs deck.toDocument
  | .label s => by rw [toDocument]; exact .label s
  | .concat parts => by rw [toDocument]; exact .concat (toDocuments_written parts)
  | .choose n source => by
    rw [toDocument]
    have h := WrittenAs.choose n.toDocument_written (toDocument_written source)
    exact h.inOrder ["choose", "from"] (by decide) rfl
  | .chooseGroups n groups => by
    rw [toDocument]
    have h := WrittenAs.chooseGroups n.toDocument_written (toDocuments_written groups)
    exact h.inOrder ["choose", "grouping"] (by decide) rfl
  | .draw n source => by
    rw [toDocument]
    have h := WrittenAs.draw n.toDocument_written (toDocument_written source)
    exact h.inOrder ["from", "repeat"] (by decide) rfl
  | .drawGroups n groups => by
    rw [toDocument]
    have h := WrittenAs.drawGroups n.toDocument_written (toDocuments_written groups)
    exact h.inOrder ["grouping", "repeat"] (by decide) rfl
  | .duplicate n kinds source => by
    rw [toDocument]
    have h := WrittenAs.duplicate n.toDocument_written (Quantity.toDocument_written_map kinds)
      (toDocument_written source)
    have ordered := h.inOrder ["duplicate", "from", "of"] (by decide) rfl
    cases kinds <;> exact ordered
  | .first n source => by
    rw [toDocument]
    have h := WrittenAs.first n.toDocument_written (toDocument_written source)
    exact h.inOrder ["first", "from"] (by decide) rfl
  | .last n source => by
    rw [toDocument]
    have h := WrittenAs.last n.toDocument_written (toDocument_written source)
    exact h.inOrder ["from", "last"] (by decide) rfl
  | .cross left right separator => by
    rw [toDocument]
    have h := WrittenAs.cross separator (toDocument_written left) (toDocument_written right)
    have ordered := h.inOrder ["cross", "using", "with"] (by decide) rfl
    cases separator <;> exact ordered
  | .zip left right separator => by
    rw [toDocument]
    have h := WrittenAs.zip separator (toDocument_written left) (toDocument_written right)
    have ordered := h.inOrder ["using", "with", "zip"] (by decide) rfl
    cases separator <;> exact ordered
  | .cond test yes none => by
    rw [toDocument, noDocument]
    have h := WrittenAs.cond test (toDocument_written yes) .none
    exact h.inOrder ["else", "if", "then"] (by decide) rfl
  | .cond test yes (some no) => by
    rw [toDocument, noDocument]
    have h := WrittenAs.cond test (toDocument_written yes) (.some (toDocument_written no))
    exact h.inOrder ["else", "if", "then"] (by decide) rfl
  | .set op parts => by rw [toDocument]; exact .set op parts

theorem toDocuments_written : ∀ decks : List Deck, AllWrittenAs decks (toDocuments decks)
  | [] => by rw [toDocuments]; exact .nil
  | deck :: decks => by
    rw [toDocuments]
    exact .cons (toDocument_written deck) (toDocuments_written decks)

end

/-- The members of an object, seen as those of a deck. -/
theorem Form.entry?_form (members : List (String × Document)) (key : String) :
    Form.entry? (form members) key =
      (ByName.get? key members).map fun d => (d, ofDocument? d) := by
  induction members with
  | nil => rw [form]; rfl
  | cons e members ih =>
    obtain ⟨name, d⟩ := e
    rw [form, Form.entry?, List.lookup_cons, ByName.get?]
    by_cases hkey : name = key
    · simp [hkey]
    · have hne : (key == name) = false := beq_eq_false_iff_ne.mpr (Ne.symm hkey)
      rw [hne, if_neg hkey]
      exact ih

/-- An object is read by its fields: its form has an entry for every field that is there. -/
theorem ofDocument?_ofFields {fields : List (String × Option Document)} {deck : Deck}
    (h : (fields.map Prod.fst).Nodup)
    (hread : ∀ form : Form, (∀ key, form.entry? key =
      (List.lookup key fields).join.map fun d => (d, ofDocument? d)) → form.read? = some deck) :
    ofDocument? (.ofFields fields) = some deck := by
  obtain ⟨members, heq, hget⟩ := Document.ofFields_members h
  rw [heq, ofDocument?]
  refine hread (form members) fun key => ?_
  rw [Form.entry?_form, hget]

/-- A field that may be missing is read as what it was written for. -/
theorem Form.optional_of_rel {α : Type} {read : Document × Option Deck → Option α} {form : Form}
    {key : String} {a : Option α} {d : Option Document}
    (hentry : form.entry? key = d.map fun d => (d, ofDocument? d))
    (h : Option.Rel (fun a d => d ≠ .null ∧ read (d, ofDocument? d) = some a) a d) :
    form.optional key read = some a := by
  unfold Form.optional
  rw [hentry]
  cases h with
  | none => rfl
  | @some a d h =>
    obtain ⟨hnull, hread⟩ := h
    rw [Option.map_some]
    split
    · rename_i heq
      cases heq
    · rename_i heq
      cases heq
      exact absurd rfl hnull
    · rename_i heq
      cases heq
      rw [hread]
      rfl

/-- What can be read is no null. -/
theorem not_null_of_read {deck : Deck} {d : Document} (h : ofDocument? d = some deck) :
    d ≠ .null := by
  rintro rfl
  rw [ofDocument?] at h
  · cases h
  all_goals simp

theorem Quantity.not_null_of_read {q : Quantity} {d : Document}
    (h : Quantity.ofDocument? d = some q) : d ≠ .null := by
  rintro rfl
  cases h

theorem Form.separator?_of_entry {form : Form} {separator : Option String}
    (h : form.entry? "using" = (separator.map .text).map fun d => (d, ofDocument? d)) :
    form.separator? = some separator := by
  refine optional_of_rel h ?_
  cases separator with
  | none => exact .none
  | some s => exact .some ⟨nofun, rfl⟩

mutual

theorem WrittenAs.read : ∀ {deck : Deck} {d : Document}, deck.WrittenAs d →
    ofDocument? d = some deck
  | _, _, .label s => by rw [ofDocument?]
  | _, _, .concat h => by rw [ofDocument?, h.read]; rfl
  | _, _, .choose hn hd => by
    refine ofDocument?_ofFields (by simp) fun form hentry => ?_
    simp [Form.read?, Form.readers, Form.quantity?, Form.deck?, hentry, List.lookup_cons, hn.read,
      hd.read]
  | _, _, .chooseGroups hn hds => by
    refine ofDocument?_ofFields (by simp) fun form hentry => ?_
    simp [Form.read?, Form.readers, Form.quantity?, Form.deck?, Form.decks?, hentry,
      List.lookup_cons, hn.read, ofDocument?, hds.read]
  | _, _, .draw hn hd => by
    refine ofDocument?_ofFields (by simp) fun form hentry => ?_
    simp [Form.read?, Form.readers, Form.quantity?, Form.deck?, hentry, List.lookup_cons, hn.read,
      hd.read]
  | _, _, .drawGroups hn hds => by
    refine ofDocument?_ofFields (by simp) fun form hentry => ?_
    simp [Form.read?, Form.readers, Form.quantity?, Form.deck?, Form.decks?, hentry,
      List.lookup_cons, hn.read, ofDocument?, hds.read]
  | .duplicate _ kinds _, _, .duplicate hn hof hd => by
    refine ofDocument?_ofFields (by simp) fun form hentry => ?_
    have hkinds : form.optional "of" (fun e => Quantity.ofDocument? e.1) = some kinds := by
      refine Form.optional_of_rel (hentry "of") ?_
      cases hof with
      | none => exact .none
      | some h => exact .some ⟨Quantity.not_null_of_read h.read, h.read⟩
    simp [Form.read?, Form.readers, Form.quantity?, Form.deck?, hentry, List.lookup_cons, hn.read,
      hkinds, hd.read]
  | _, _, .first hn hd => by
    refine ofDocument?_ofFields (by simp) fun form hentry => ?_
    simp [Form.read?, Form.readers, Form.quantity?, Form.deck?, hentry, List.lookup_cons, hn.read,
      hd.read]
  | _, _, .last hn hd => by
    refine ofDocument?_ofFields (by simp) fun form hentry => ?_
    simp [Form.read?, Form.readers, Form.quantity?, Form.deck?, hentry, List.lookup_cons, hn.read,
      hd.read]
  | _, _, .cross separator ha hb => by
    refine ofDocument?_ofFields (by simp) fun form hentry => ?_
    have hseparator : form.separator? = some separator :=
      Form.separator?_of_entry (hentry "using")
    simp [Form.read?, Form.readers, Form.quantity?, Form.deck?, hentry, List.lookup_cons, ha.read,
      hb.read, hseparator]
  | _, _, .zip separator ha hb => by
    refine ofDocument?_ofFields (by simp) fun form hentry => ?_
    have hseparator : form.separator? = some separator :=
      Form.separator?_of_entry (hentry "using")
    simp [Form.read?, Form.readers, Form.quantity?, Form.deck?, hentry, List.lookup_cons, ha.read,
      hb.read, hseparator]
  | .cond _ _ no, _, .cond test ha hb => by
    refine ofDocument?_ofFields (by simp) fun form hentry => ?_
    have hno : form.optional "else" Prod.snd = some no :=
      Form.optional_of_rel (hentry "else") hb.read
    simp [Form.read?, Form.readers, Form.quantity?, Form.deck?, hentry, List.lookup_cons,
      Flag.ofDocument?_toDocument, ha.read, hno]
  | _, _, .set op parts => by
    obtain ⟨object, hobject⟩ :
        ∃ object, object = form [(op.key, .list (LabelSet.toDocuments parts))] := ⟨_, rfl⟩
    have hset : LabelSet.operation? (.object (object.map fun e => (e.1, e.2.1))) =
        some (op, parts) := by
      rw [hobject, form, form]
      exact LabelSet.operation?_of_key op parts
    have other {key : String} (hkey : op.key ≠ key) : Form.entry? object key = none := by
      rw [hobject, Form.entry?_form, ByName.get?, if_neg hkey]
      rfl
    -- No form that is tried before can be read without a key that is not there.
    have keys : Form.entry? object "choose" = none ∧ Form.entry? object "repeat" = none ∧
        Form.entry? object "duplicate" = none ∧ Form.entry? object "first" = none ∧
        Form.entry? object "last" = none ∧ Form.entry? object "cross" = none ∧
        Form.entry? object "zip" = none ∧ Form.entry? object "if" = none := by
      refine ⟨other ?_, other ?_, other ?_, other ?_, other ?_, other ?_, other ?_, other ?_⟩ <;>
        cases op <;> decide
    rw [ofDocument?, ← hobject]
    simp [Form.read?, Form.readers, Form.quantity?, Form.deck?, keys, hset]

theorem AllWrittenAs.read : ∀ {decks : List Deck} {ds : List Document}, AllWrittenAs decks ds →
    ofDocuments? ds = some decks
  | _, _, .nil => by rw [ofDocuments?]
  | _, _, .cons h hs => by rw [ofDocuments?, h.read, hs.read]; rfl

theorem OrWrittenAs.read : ∀ {no : Option Deck} {b : Option Document}, OrWrittenAs no b →
    Option.Rel (fun deck d => d ≠ .null ∧ ofDocument? d = some deck) no b
  | _, _, .none => .none
  | _, _, .some h => .some ⟨not_null_of_read h.read, h.read⟩

end

end Deck

end Dealer
