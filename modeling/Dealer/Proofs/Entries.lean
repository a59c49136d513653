-- What the entries under names are after many writes: in the order of the names,
-- and under each name what was written last. Nothing else is, so these two
-- properties say which entries they are.
import Dealer.ByName

namespace Dealer.ByName

variable {α : Type}

/-! ## The order of the names -/

/-- The names rise, so no name has two entries. -/
def Rising (entries : ByName α) : Prop := entries.names.Pairwise (· < ·)

/-- A write adds its own entry and no other. -/
theorem mem_put {name : String} {value : α} {entries : ByName α} {e : String × α}
    (h : e ∈ entries.put name value) : e = (name, value) ∨ e ∈ entries := by
  induction entries with
  | nil => exact Or.inl (List.mem_singleton.mp h)
  | cons first rest ih =>
    unfold put at h
    split at h
    · exact List.mem_cons.mp h
    · split at h
      · rcases List.mem_cons.mp h with h | h
        · exact Or.inl h
        · exact Or.inr (List.mem_cons_of_mem _ h)
      · rcases List.mem_cons.mp h with h | h
        · exact Or.inr (List.mem_cons.mpr (Or.inl h))
        · rcases ih h with h | h
          · exact Or.inl h
          · exact Or.inr (List.mem_cons_of_mem _ h)

theorem mem_putAll {entries : ByName α} {news : List (String × α)} {e : String × α}
    (h : e ∈ entries.putAll news) : e ∈ news ∨ e ∈ entries := by
  induction news generalizing entries with
  | nil => exact Or.inr h
  | cons first news ih =>
    rcases ih h with h | h
    · exact Or.inl (List.mem_cons_of_mem _ h)
    · rcases mem_put h with rfl | h
      · exact Or.inl (List.mem_cons.mpr (Or.inl rfl))
      · exact Or.inr h

theorem mem_names_put {name other : String} {value : α} {entries : ByName α}
    (h : other ∈ (entries.put name value).names) : other = name ∨ other ∈ entries.names := by
  obtain ⟨e, he, rfl⟩ := List.mem_map.mp h
  rcases mem_put he with rfl | he
  · exact Or.inl rfl
  · exact Or.inr (List.mem_map_of_mem he)

/-- A write keeps the order. -/
theorem Rising.put {entries : ByName α} (h : Rising entries) (name : String) (value : α) :
    Rising (entries.put name value) := by
  induction entries with
  | nil => exact List.pairwise_singleton _ _
  | cons e rest ih =>
    obtain ⟨k, v⟩ := e
    obtain ⟨hk, hrest⟩ := List.pairwise_cons.mp h
    unfold ByName.put
    split
    · rename_i hlt
      refine List.pairwise_cons.mpr ⟨fun other hother => ?_, h⟩
      rcases List.mem_cons.mp hother with rfl | hother
      · exact hlt
      · exact String.lt_trans hlt (hk other hother)
    · rename_i hnot
      split
      · rename_i heq
        exact List.pairwise_cons.mpr ⟨fun other hother => heq ▸ hk other hother, hrest⟩
      · rename_i hne
        refine List.pairwise_cons.mpr ⟨fun other hother => ?_, ih hrest⟩
        rcases mem_names_put hother with rfl | hother
        · exact Std.lt_of_le_of_ne (String.not_lt.mp hnot) fun heq => hne heq.symm
        · exact hk other hother

theorem Rising.putAll {entries : ByName α} (h : Rising entries) (news : List (String × α)) :
    Rising (entries.putAll news) := by
  induction news generalizing entries with
  | nil => exact h
  | cons e news ih => exact ih (h.put e.1 e.2)

theorem get?_first (name : String) (value : α) (rest : ByName α) :
    ByName.get? name ((name, value) :: rest) = some value := by
  unfold get?
  rw [if_pos rfl]

theorem get?_eq_none_of_lt {name : String} {entries : ByName α}
    (h : ∀ other ∈ entries.names, name < other) : entries.get? name = none := by
  induction entries with
  | nil => rfl
  | cons e rest ih =>
    obtain ⟨k, v⟩ := e
    have hk : k ≠ name := by
      rintro rfl
      exact String.lt_irrefl _ (h _ (List.mem_cons_self ..))
    unfold get?
    rw [if_neg hk]
    exact ih fun other hother => h other (List.mem_cons_of_mem _ hother)

/-- An entry is what is found under its name. -/
theorem Rising.get?_of_mem {name : String} {value : α} {entries : ByName α} (h : Rising entries)
    (hentry : (name, value) ∈ entries) : entries.get? name = some value := by
  induction entries with
  | nil => cases hentry
  | cons e rest ih =>
    obtain ⟨k, v⟩ := e
    obtain ⟨hlt, hrest⟩ := List.pairwise_cons.mp h
    rcases List.mem_cons.mp hentry with heq | hentry
    · cases heq
      exact get?_first ..
    · have hk : k ≠ name := by
        rintro rfl
        exact String.lt_irrefl _ (hlt _ (List.mem_map.mpr ⟨_, hentry, rfl⟩))
      unfold get?
      rw [if_neg hk]
      exact ih hrest hentry

/-- Names that rise are different. -/
theorem Rising.nodup {entries : ByName α} (h : Rising entries) : entries.names.Nodup := by
  unfold Rising at h
  apply h.imp
  rintro name _ hlt rfl
  exact String.lt_irrefl name hlt

/-- No name with an entry is below the first. -/
theorem Rising.not_lt_first {k name : String} {v value : α} {rest : ByName α}
    (h : Rising ((k, v) :: rest)) (hname : ByName.get? name ((k, v) :: rest) = some value) :
    ¬name < k := by
  intro hlt
  have hnone : ByName.get? name ((k, v) :: rest) = none := by
    refine get?_eq_none_of_lt fun other hother => ?_
    rcases List.mem_cons.mp hother with rfl | hother
    · exact hlt
    · exact String.lt_trans hlt ((List.pairwise_cons.mp h).1 other hother)
  rw [hnone] at hname
  cases hname

/-- Rising entries that agree under every name are the same. -/
theorem Rising.eq_of_get?_eq {entries others : ByName α} (h : Rising entries) (h' : Rising others)
    (heq : ∀ name, entries.get? name = others.get? name) : entries = others := by
  induction entries generalizing others with
  | nil =>
    cases others with
    | nil => rfl
    | cons e' rest' =>
      have := heq e'.1
      rw [get?_first] at this
      cases this
  | cons e rest ih =>
    obtain ⟨k, v⟩ := e
    cases others with
    | nil =>
      have := heq k
      rw [get?_first] at this
      cases this
    | cons e' rest' =>
      obtain ⟨k', v'⟩ := e'
      have hk := heq k
      have hk' := heq k'
      rw [get?_first] at hk hk'
      have same : k = k' := by
        by_cases hne : k = k'
        · exact hne
        · have hle : k ≤ k' := String.not_lt.mp (h.not_lt_first hk')
          exact absurd (Std.lt_of_le_of_ne hle hne) (h'.not_lt_first hk.symm)
      subst same
      rw [get?_first] at hk
      obtain ⟨hlt, hrest⟩ := List.pairwise_cons.mp h
      obtain ⟨hlt', hrest'⟩ := List.pairwise_cons.mp h'
      have tails : rest = rest' := by
        refine ih hrest hrest' fun name => ?_
        have hname := heq name
        unfold ByName.get? at hname
        by_cases hn : k = name
        · subst hn
          rw [get?_eq_none_of_lt hlt, get?_eq_none_of_lt hlt']
        · rw [if_neg hn, if_neg hn] at hname
          exact hname
      rw [tails, Option.some.inj hk]

/-! ## Other values under the same names -/

variable {β : Type}

theorem get?_map (f : α → β) (name : String) (entries : ByName α) :
    ByName.get? name (entries.map fun e => (e.1, f e.2)) = (entries.get? name).map f := by
  induction entries with
  | nil => rfl
  | cons e rest ih =>
    obtain ⟨k, v⟩ := e
    rw [List.map_cons, ByName.get?, ByName.get?]
    split
    · rfl
    · exact ih

theorem Rising.map {entries : ByName α} (h : Rising entries) (f : α → β) :
    Rising (entries.map fun e => (e.1, f e.2)) := by
  unfold Rising names at h ⊢
  rw [List.map_map]
  exact h

/-! ## The part of one name -/

section

variable {entries : List (String × α)} (f : α → List β)

/-- Under a name that is not there stands nothing. -/
theorem flatMap_named_eq_nil {name : String} (h : name ∉ entries.map Prod.fst) :
    (entries.flatMap fun e => if e.1 = name then f e.2 else []) = [] := by
  rw [List.flatMap_eq_nil_iff]
  intro e he
  have hne : e.1 ≠ name := fun heq => h (heq ▸ List.mem_map_of_mem he)
  rw [if_neg hne]

/-- Where no name comes twice, under the name of an entry stands that entry alone. -/
theorem flatMap_named_of_mem (once : (entries.map Prod.fst).Nodup) {e : String × α}
    (he : e ∈ entries) :
    (entries.flatMap fun other => if other.1 = e.1 then f other.2 else []) = f e.2 := by
  induction entries with
  | nil => cases he
  | cons first rest ih =>
    obtain ⟨hfirst, hrest⟩ := List.nodup_cons.mp once
    rw [List.flatMap_cons]
    rcases List.mem_cons.mp he with rfl | he
    · rw [if_pos rfl, flatMap_named_eq_nil f hfirst, List.append_nil]
    · have hne : first.1 ≠ e.1 := fun heq => hfirst (heq ▸ List.mem_map_of_mem he)
      rw [if_neg hne, List.nil_append]
      exact ih hrest he

end

/-! ## The last writes -/

theorem get?_append (name : String) (entries others : ByName α) :
    ByName.get? name (entries ++ others) = (entries.get? name).or (others.get? name) := by
  induction entries with
  | nil => rfl
  | cons e rest ih =>
    obtain ⟨k, v⟩ := e
    rw [List.cons_append, ByName.get?, ByName.get?]
    split
    · rfl
    · exact ih

/-- With one entry to a name it does not matter where the search begins. -/
theorem Rising.get?_reverse {name : String} {entries : ByName α} (h : Rising entries) :
    ByName.get? name entries.reverse = entries.get? name := by
  induction entries with
  | nil => rfl
  | cons e rest ih =>
    obtain ⟨k, v⟩ := e
    obtain ⟨hlt, hrest⟩ := List.pairwise_cons.mp h
    rw [List.reverse_cons, get?_append, ih hrest]
    by_cases hk : k = name
    · subst hk
      rw [get?_eq_none_of_lt hlt, get?_first, get?_first]
      rfl
    · have skip (others : ByName α) : ByName.get? name ((k, v) :: others) = others.get? name :=
        if_neg hk
      rw [skip, skip, get?, Option.or_none]

/-- What was written last counts, and where nothing was written the entry that was there. -/
theorem get?_putAll (name : String) (entries : ByName α) (news : List (String × α)) :
    (entries.putAll news).get? name = (ByName.get? name news.reverse).or (entries.get? name) := by
  induction news generalizing entries with
  | nil => rfl
  | cons e news ih =>
    obtain ⟨k, v⟩ := e
    rw [List.reverse_cons, get?_append, Option.or_assoc]
    refine (ih (entries.put k v)).trans ?_
    congr 1
    rw [get?_put]
    unfold ByName.get?
    by_cases hk : name = k
    · rw [if_pos hk, if_pos hk.symm]
      rfl
    · rw [if_neg hk, if_neg fun h => hk h.symm]
      rfl

/-- The entries that members leave: in the order of their names, each name once, with the value
that it has last. -/
structure LeftBy (members : List (String × α)) (entries : ByName α) : Prop where
  rising : Rising entries
  last : ∀ name, entries.get? name = ByName.get? name members.reverse

theorem leftBy_iff {members : List (String × α)} {entries : ByName α} :
    LeftBy members entries ↔ entries = ByName.putAll [] members := by
  have written : LeftBy members (ByName.putAll [] members) := by
    refine ⟨(show Rising [] from List.Pairwise.nil).putAll members, fun name => ?_⟩
    rw [get?_putAll]
    exact Option.or_none
  constructor
  · intro h
    refine h.rising.eq_of_get?_eq written.rising fun name => ?_
    rw [h.last, written.last]
  · rintro rfl
    exact written

end Dealer.ByName
