-- What a setup holds. It is made by writes, and of two writes under names with the same
-- words the later one counts. So a setup is a map from the words of a name to what was
-- written there last, however the writes came: one by one, with an object, or with the
-- whole of another setup.
import Dealer.Eval.Memo
import Dealer.Proofs.Entries
import Dealer.Proofs.NormalLabels
import Dealer.Setup
import Mathlib.Data.Finset.Card

namespace Dealer

/-! ## Words -/

/-- The words of a label: what stands between its blanks. -/
def wordsOf (label : String) : List (List Char) :=
  (label.toList.splitOnP isBlank).filter fun w => w ≠ []

theorem leadingWord_of_splitOnP {cs w : List Char} {others : List (List Char)}
    (h : cs.splitOnP isBlank = w :: others) :
    leadingWord cs = (w, others.filter fun w => w ≠ []) := by
  induction cs generalizing w others with
  | nil =>
    cases h
    rfl
  | cons c cs ih =>
    obtain ⟨v, rest, hcs⟩ := List.exists_cons_of_ne_nil (List.splitOnP_ne_nil isBlank cs)
    rw [List.splitOnP_cons_eq_if_modifyHead, hcs] at h
    rw [leadingWord, ih hcs]
    by_cases hc : isBlank c = true
    · rw [if_pos hc] at h
      cases h
      refine (if_pos hc).trans ?_
      by_cases hv : v = [] <;> simp [hv]
    · rw [if_neg hc] at h
      cases h
      exact if_neg hc

theorem words_eq_wordsOf (label : String) : words label.toList = wordsOf label := by
  obtain ⟨w, others, h⟩ :=
    List.exists_cons_of_ne_nil (List.splitOnP_ne_nil isBlank label.toList)
  unfold words wordsOf
  rw [leadingWord_of_splitOnP h, h]
  by_cases hw : w = [] <;> simp [hw]

/-- Words on one line are found again. -/
theorem splitOnP_joinWords : ∀ {ws : List (List Char)}, (∀ w ∈ ws, IsWord w) → ws ≠ [] →
    (joinWords ws).splitOnP isBlank = ws
  | [], _, hne => absurd rfl hne
  | [w], h, _ => List.splitOnP_eq_singleton (h w List.mem_cons_self).2
  | w :: v :: ws, h, _ => by
    obtain ⟨hw, hws⟩ := List.forall_mem_cons.mp h
    have first := List.splitOnP_append_cons_of_forall_mem hw.2 ' ' (by decide +kernel)
      (joinWords (v :: ws))
    rw [splitOnP_joinWords hws (List.cons_ne_nil v ws)] at first
    rw [joinWords]
    · exact first
    · simp

theorem wordsOf_normalize (label : String) : wordsOf (normalize label) = wordsOf label := by
  have isWord : ∀ w ∈ wordsOf label, IsWord w := by
    rw [← words_eq_wordsOf]
    exact (isWord_of_mem_words label.toList).1
  have filled : ((wordsOf label).filter fun w => w ≠ []) = wordsOf label :=
    List.filter_eq_self.mpr fun w hw => decide_eq_true (isWord w hw).1
  have joined : (normalize label).toList = joinWords (wordsOf label) := by
    rw [normalize, String.toList_ofList, words_eq_wordsOf]
  have split : wordsOf (normalize label) =
      ((joinWords (wordsOf label)).splitOnP isBlank).filter fun w => w ≠ [] := by
    rw [wordsOf, joined]
  rw [split]
  cases hwords : wordsOf label with
  | nil => rfl
  | cons w ws =>
    rw [hwords] at isWord filled
    rw [splitOnP_joinWords isWord (List.cons_ne_nil w ws), filled]

/-- Labels have one normal form where they have the same words. -/
theorem normalize_eq_iff {label other : String} :
    normalize label = normalize other ↔ wordsOf label = wordsOf other := by
  constructor
  · intro h
    rw [← wordsOf_normalize label, h, wordsOf_normalize]
  · intro h
    rw [normalize, normalize, words_eq_wordsOf, words_eq_wordsOf, h]

/-! ## Writes -/

/-- What is written under a name, as the setup keeps it. -/
def underNormalName (write : String × Document) : String × Document :=
  (normalize write.1, write.2)

namespace Setup

/-- The writes that made a setup, in their order. -/
inductive MadeBy : Setup → List (String × Document) → Prop
  | nothing : MadeBy .empty []
  /-- An object is read as the writes of its members, in the order in which they stand. That is the
  order of their keys. -/
  | object {members : List (String × Document)} {setup : Setup}
      (h : Setup.ofDocument (.object members) = .ok setup) : MadeBy setup members
  | insert {setup : Setup} {writes : List (String × Document)} (h : MadeBy setup writes)
      (name : String) (d : Document) : MadeBy (setup.insert name d) (writes ++ [(name, d)])
  /-- Another setup is laid over it, entry by entry. -/
  | overlay {setup other : Setup} {writes others : List (String × Document)}
      (h : MadeBy setup writes) (hother : MadeBy other others) :
      MadeBy (setup.overlay other) (writes ++ other.entries)

theorem ofMembers_entries (members : List (String × Document)) :
    (ofMembers members).entries = ByName.putAll [] (members.map underNormalName) := by
  rw [ByName.putAll, List.foldl_map, ofMembers]
  exact (List.foldl_hom Setup.entries fun _ _ => rfl).symm

variable {setup : Setup} {writes : List (String × Document)}

theorem normal_of_putAll (h : setup.entries = ByName.putAll [] (writes.map underNormalName)) :
    ∀ e ∈ setup.entries, normalize e.1 = e.1 := by
  intro e he
  rw [h] at he
  rcases ByName.mem_putAll he with he | he
  · obtain ⟨write, -, rfl⟩ := List.mem_map.mp he
    exact normalize_normalize write.1
  · cases he

/-- The entries of a setup are what the writes leave. -/
theorem MadeBy.entries_eq (h : setup.MadeBy writes) :
    setup.entries = ByName.putAll [] (writes.map underNormalName) := by
  induction h with
  | nothing => rfl
  | object h =>
    cases h
    exact ofMembers_entries _
  | insert h name d ih =>
    rw [Setup.insert, ih, List.map_append, ByName.putAll, ByName.putAll, List.foldl_append]
    rfl
  | @overlay setup other writes others h hother ih ihother =>
    -- The names of the other setup are normal already.
    have same : other.entries.map underNormalName = other.entries := by
      refine (List.map_congr_left fun e he => ?_).trans (List.map_id _)
      rw [underNormalName, normal_of_putAll ihother e he]
      rfl
    rw [Setup.overlay, ih, List.map_append, same, ByName.putAll, ByName.putAll, ByName.putAll,
      List.foldl_append]

/-! ## What was written last -/

theorem get?_eq_head? {α : Type} (name : String) (entries : List (String × α)) :
    ByName.get? name entries = ((entries.filter fun e => e.1 = name).head?).map Prod.snd := by
  induction entries with
  | nil => rfl
  | cons e rest ih =>
    obtain ⟨k, v⟩ := e
    rw [ByName.get?]
    by_cases hk : k = name
    · rw [if_pos hk, List.filter_cons_of_pos (by simpa using hk)]
      rfl
    · rw [if_neg hk, ih, List.filter_cons_of_neg (by simpa using hk)]

/-- The last of some writes under a name with the same words. -/
def lastWrite (writes : List (String × Document)) (name : String) : Option Document :=
  ((writes.filter fun write => wordsOf write.1 = wordsOf name).getLast?).map Prod.snd

theorem MadeBy.get?_eq (h : setup.MadeBy writes) (name : String) :
    setup.get? (normalize name) = lastWrite writes name := by
  have sameWords : (writes.map underNormalName).filter (fun e => e.1 = normalize name) =
      (writes.filter fun write => wordsOf write.1 = wordsOf name).map underNormalName := by
    rw [List.filter_map]
    congr 1
    refine List.filter_congr fun write _ => ?_
    exact decide_eq_decide.mpr normalize_eq_iff
  rw [Setup.get?, h.entries_eq, ByName.get?_putAll, get?_eq_head?, List.filter_reverse,
    List.head?_reverse, sameWords, List.getLast?_map, Option.map_map, lastWrite]
  exact Option.or_none

theorem exists_lastWrite {write : String × Document} (h : write ∈ writes) :
    ∃ d, lastWrite writes write.1 = some d := by
  have hmem : write ∈ writes.filter fun other => wordsOf other.1 = wordsOf write.1 :=
    List.mem_filter.mpr ⟨h, decide_eq_true rfl⟩
  rw [lastWrite, List.getLast?_eq_some_getLast (List.ne_nil_of_mem hmem)]
  exact ⟨_, rfl⟩

theorem MadeBy.mem_names_iff (h : setup.MadeBy writes) {name : String} :
    name ∈ setup.names ↔ ∃ write ∈ writes, normalize write.1 = name := by
  constructor
  · intro hname
    obtain ⟨e, he, rfl⟩ := List.mem_map.mp hname
    rw [h.entries_eq] at he
    rcases ByName.mem_putAll he with he | he
    · obtain ⟨write, hwrite, rfl⟩ := List.mem_map.mp he
      exact ⟨write, hwrite, rfl⟩
    · cases he
  · rintro ⟨write, hwrite, rfl⟩
    obtain ⟨d, hd⟩ := exists_lastWrite hwrite
    exact ByName.mem_names_of_get? ((h.get?_eq write.1).trans hd)

/-- A setup is a map from the words of names. Each of its names is in normal form; under the normal
form of a name stands what was written last under a name with the same words, and nothing where
there was none; and there are as many parameters as there are normal forms of the written names. -/
theorem what_was_written_last_counts (setup : Setup) (writes : List (String × Document))
    (h : setup.MadeBy writes) :
    (∀ name ∈ setup.names, normalize name = name) ∧
      (∀ name, setup.get? (normalize name) = lastWrite writes name) ∧
      setup.size = (writes.map fun write => normalize write.1).toFinset.card := by
  refine ⟨fun name hname => ?_, h.get?_eq, ?_⟩
  · obtain ⟨write, -, rfl⟩ := h.mem_names_iff.mp hname
    exact normalize_normalize write.1
  · have rising : setup.entries.Rising := by
      have nothing : ByName.Rising ([] : ByName Document) := List.Pairwise.nil
      rw [h.entries_eq]
      exact nothing.putAll _
    have names : setup.names.toFinset = (writes.map fun write => normalize write.1).toFinset := by
      ext name
      rw [List.mem_toFinset, List.mem_toFinset, h.mem_names_iff, List.mem_map]
    rw [← names, Setup.names, List.toFinset_card_of_nodup rising.nodup, ByName.names,
      List.length_map, size]

/-- An object and a single parameter, with another object laid over them. -/
def spacedOut : Setup :=
  ((ofMembers [(" a", .int 1), ("a", .int 2), ("b", .int 3)]).insert "c\t d" (.int 4)).overlay
    (ofMembers [("a ", .int 5)])

/-- What was written to it, with three names in five spellings. The object that was laid over it
came with a name in normal form. -/
def spacedWrites : List (String × Document) :=
  [(" a", .int 1), ("a", .int 2), ("b", .int 3), ("c\t d", .int 4), ("a", .int 5)]

theorem spacedOut_madeBy : spacedOut.MadeBy spacedWrites := by
  have laid : MadeBy (ofMembers [("a ", .int 5)]) [("a ", .int 5)] := .object rfl
  exact .overlay (.insert (.object rfl) "c\t d" (.int 4)) laid

/-- The parameter that was laid over counts under each spelling of its name. -/
theorem three_names_in_five_spellings :
    spacedOut.MadeBy spacedWrites ∧ spacedOut.get? (normalize "\ta\n") = some (.int 5) ∧
      spacedOut.get? (normalize "c d") = some (.int 4) ∧
        spacedOut.get? (normalize "cd") = none ∧ spacedOut.size = 3 := by
  obtain ⟨-, last, size⟩ :=
    what_was_written_last_counts spacedOut spacedWrites spacedOut_madeBy
  have threeNames : (spacedWrites.map fun write => normalize write.1).toFinset.card = 3 := by
    decide +kernel
  exact ⟨spacedOut_madeBy, (last "\ta\n").trans rfl, (last "c d").trans rfl,
    (last "cd").trans rfl, size.trans threeNames⟩

end Setup
end Dealer
