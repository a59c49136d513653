-- Which documents can be read in which kind. What is not a text describes a
-- number, a flag or a deck, and never two of them. A text names a parameter in
-- every kind.
import Dealer.Expr.Deck

namespace Dealer

/-! ## Objects with one member -/

namespace Deck.Form

variable {key k : String} {e : Document × Option Deck}

theorem key_of_found {found : Document × Option Deck}
    (h : Form.entry? [(key, e)] k = some found) : key = k ∧ found = e := by
  unfold entry? at h
  rw [List.lookup_cons] at h
  split at h
  · rename_i heq
    cases h
    exact ⟨(eq_of_beq heq).symm, rfl⟩
  · cases h

theorem key_of_quantity? {q : Quantity} (h : Form.quantity? [(key, e)] k = some q) : key = k := by
  obtain ⟨found, hfound, -⟩ := Option.bind_eq_some_iff.mp h
  exact (key_of_found hfound).1

theorem key_of_deck? {d : Deck} (h : Form.deck? [(key, e)] k = some d) : key = k := by
  obtain ⟨found, hfound, -⟩ := Option.bind_eq_some_iff.mp h
  exact (key_of_found hfound).1

theorem key_of_decks? {ds : List Deck} (h : Form.decks? [(key, e)] k = some ds) : key = k := by
  unfold decks? at h
  split at h
  · rename_i hd
    exact key_of_deck? hd
  · cases h

end Deck.Form

/-- Where two parts are read one after the other, both can be read. -/
theorem both_of_bind {α β γ : Type} {x : Option α} {y : α → Option β} {f : α → β → Option γ}
    {c : γ} (h : (x.bind fun a => (y a).bind (f a)) = some c) :
    ∃ a b, x = some a ∧ y a = some b ∧ f a b = some c := by
  obtain ⟨a, ha, hrest⟩ := Option.bind_eq_some_iff.mp h
  obtain ⟨b, hb, hc⟩ := Option.bind_eq_some_iff.mp hrest
  exact ⟨a, b, ha, hb, hc⟩

theorem SetOp.key_of_ofKey? {key : String} {op : SetOp} (h : SetOp.ofKey? key = some op) :
    op.key = key := by
  simpa using List.find?_some h

theorem Arith.key_of_ofKey? {key : String} {op : Arith} (h : Arith.ofKey? key = some op) :
    op.key = key := by
  simpa using List.find?_some h

/-- An object that describes a number has the key of an operation on numbers alone. -/
theorem Quantity.single_of_object {members : List (String × Document)} {q : Quantity}
    (h : Quantity.ofDocument? (.object members) = some q) :
    ∃ (op : Arith) (d : Document), members = [(op.key, d)] := by
  rw [ofDocument?.eq_def] at h
  split at h
  · rename_i heq
    cases heq
  · rename_i heq
    cases heq
  · rename_i heq
    cases heq
  · rename_i key operands heq
    cases heq
    obtain ⟨op, hop, -⟩ := Option.bind_eq_some_iff.mp h
    exact ⟨op, _, by rw [Arith.key_of_ofKey? hop]⟩
  · cases h

/-- An object that describes a flag has the key of a connection alone. -/
theorem Flag.single_of_object {members : List (String × Document)} {f : Flag}
    (h : Flag.ofDocument? (.object members) = some f) :
    ∃ (key : String) (d : Document), members = [(key, d)] ∧ key ∈ ["and", "or", "not"] := by
  rw [ofDocument?.eq_def] at h
  split at h
  · rename_i heq
    cases heq
  · rename_i heq
    cases heq
  · rename_i heq
    cases heq
    exact ⟨_, _, rfl, by decide⟩
  · rename_i heq
    cases heq
    exact ⟨_, _, rfl, by decide⟩
  · rename_i heq
    cases heq
    exact ⟨_, _, rfl, by decide⟩
  · cases h

/-- An operation on sets has its key. -/
theorem LabelSet.key_of_operation? {key : String} {d : Document} {found : SetOp × List LabelSet}
    (h : LabelSet.operation? (.object [(key, d)]) = some found) : found.1.key = key := by
  unfold operation? at h
  split at h
  · rename_i op parts hread
    cases h
    cases d with
    | list items =>
      rw [ofDocument?] at hread
      obtain ⟨op, hop, hread⟩ := Option.bind_eq_some_iff.mp hread
      obtain ⟨parts, -, hread⟩ := Option.bind_eq_some_iff.mp hread
      cases hread
      exact SetOp.key_of_ofKey? hop
    | _ => simp [ofDocument?] at hread
  · cases h

/-- An object with one member describes a deck only as an operation on sets. All other decks take
two keys. -/
theorem Deck.key_of_single {key : String} {d : Document} {deck : Deck}
    (h : Deck.ofDocument? (.object [(key, d)]) = some deck) : ∃ op : SetOp, op.key = key := by
  have two {a b : String} (ha : key = a) (hb : key = b) (hne : a ≠ b) :
      ∃ op : SetOp, op.key = key :=
    absurd (ha.symm.trans hb) hne
  rw [Deck.ofDocument?, Deck.form, Deck.form] at h
  obtain ⟨reader, hmem, hread⟩ := List.exists_of_findSome?_eq_some h
  simp only [Form.readers, List.mem_cons, List.not_mem_nil, or_false] at hmem
  rcases hmem with rfl | rfl | rfl | rfl | rfl | rfl | rfl | rfl | rfl | rfl | rfl
  · obtain ⟨n, source, hn, hs, -⟩ := both_of_bind hread
    exact two (Form.key_of_quantity? hn) (Form.key_of_deck? hs) (by decide)
  · obtain ⟨n, groups, hn, hs, -⟩ := both_of_bind hread
    exact two (Form.key_of_quantity? hn) (Form.key_of_decks? hs) (by decide)
  · obtain ⟨n, source, hn, hs, -⟩ := both_of_bind hread
    exact two (Form.key_of_quantity? hn) (Form.key_of_deck? hs) (by decide)
  · obtain ⟨n, groups, hn, hs, -⟩ := both_of_bind hread
    exact two (Form.key_of_quantity? hn) (Form.key_of_decks? hs) (by decide)
  · obtain ⟨n, kinds, hn, -, hread⟩ := both_of_bind hread
    obtain ⟨source, hs, -⟩ := Option.bind_eq_some_iff.mp hread
    exact two (Form.key_of_quantity? hn) (Form.key_of_deck? hs) (by decide)
  · obtain ⟨n, source, hn, hs, -⟩ := both_of_bind hread
    exact two (Form.key_of_quantity? hn) (Form.key_of_deck? hs) (by decide)
  · obtain ⟨n, source, hn, hs, -⟩ := both_of_bind hread
    exact two (Form.key_of_quantity? hn) (Form.key_of_deck? hs) (by decide)
  · obtain ⟨left, right, hl, hr, -⟩ := both_of_bind hread
    exact two (Form.key_of_deck? hl) (Form.key_of_deck? hr) (by decide)
  · obtain ⟨left, right, hl, hr, -⟩ := both_of_bind hread
    exact two (Form.key_of_deck? hl) (Form.key_of_deck? hr) (by decide)
  · obtain ⟨test, yes, ht, hy, -⟩ := both_of_bind hread
    obtain ⟨found, hfound, -⟩ := Option.bind_eq_some_iff.mp ht
    exact two (Form.key_of_found hfound).1 (Form.key_of_deck? hy) (by decide)
  · obtain ⟨found, hfound, -⟩ := Option.bind_eq_some_iff.mp hread
    exact ⟨found.1, LabelSet.key_of_operation? hfound⟩

/-! ## At most one kind -/

namespace Document

variable {d : Document} {q : Quantity} {f : Flag} {deck : Deck}

/-- A document that describes a number and a flag is a text. -/
theorem text_of_number_of_flag (hq : Quantity.ofDocument? d = some q)
    (hf : Flag.ofDocument? d = some f) : ∃ s, d = .text s := by
  cases d with
  | text s => exact ⟨s, rfl⟩
  | object members =>
    obtain ⟨op, d, hop⟩ := Quantity.single_of_object hq
    obtain ⟨key, d', hkey, hmem⟩ := Flag.single_of_object hf
    cases hop.symm.trans hkey
    cases op <;> exact absurd hmem (by decide)
  | null => cases hq
  | bool b => cases hq
  | int n => cases hf
  | float x => cases hf
  | list items => cases hq

/-- A document that describes a number and a deck is a text. -/
theorem text_of_number_of_deck (hq : Quantity.ofDocument? d = some q)
    (hd : Deck.ofDocument? d = some deck) : ∃ s, d = .text s := by
  cases d with
  | text s => exact ⟨s, rfl⟩
  | object members =>
    obtain ⟨op, d, rfl⟩ := Quantity.single_of_object hq
    obtain ⟨setOp, hkey⟩ := Deck.key_of_single hd
    cases op <;> cases setOp <;> exact absurd hkey (by decide)
  | null => cases hq
  | bool b => cases hq
  | int n => cases hd
  | float x => cases hd
  | list items => cases hq

/-- A document that describes a flag and a deck is a text. -/
theorem text_of_flag_of_deck (hf : Flag.ofDocument? d = some f)
    (hd : Deck.ofDocument? d = some deck) : ∃ s, d = .text s := by
  cases d with
  | text s => exact ⟨s, rfl⟩
  | object members =>
    obtain ⟨key, d, rfl, hmem⟩ := Flag.single_of_object hf
    obtain ⟨setOp, rfl⟩ := Deck.key_of_single hd
    cases setOp <;> exact absurd hmem (by decide)
  | null => cases hf
  | bool b => cases hd
  | int n => cases hf
  | float x => cases hf
  | list items => cases hf

end Document

end Dealer
