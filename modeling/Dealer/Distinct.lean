-- Lists without repetition: of equal items the first one stays.
import Std.Data.HashSet

namespace Dealer

variable {α : Type} [BEq α] [Hashable α]

/-- The items of a list that were not seen before, each at its first place only. -/
def distinctFrom (seen : Std.HashSet α) : List α → List α
  | [] => []
  | a :: as =>
    if seen.contains a then distinctFrom seen as else a :: distinctFrom (seen.insert a) as

/-- The items of a list, each at its first place only. -/
def distinct (items : List α) : List α := distinctFrom ∅ items

theorem length_distinctFrom_le (seen : Std.HashSet α) (items : List α) :
    (distinctFrom seen items).length ≤ items.length := by
  induction items generalizing seen with
  | nil => exact Nat.le_refl 0
  | cons b bs ih =>
    unfold distinctFrom
    split
    · exact Nat.le_succ_of_le (ih seen)
    · exact Nat.succ_le_succ (ih _)

theorem length_distinct_le (items : List α) : (distinct items).length ≤ items.length :=
  length_distinctFrom_le ∅ items

/-! ## What is kept -/

variable [LawfulBEq α] [LawfulHashable α]

theorem mem_distinctFrom {seen : Std.HashSet α} {items : List α} {a : α} :
    a ∈ distinctFrom seen items ↔ a ∈ items ∧ a ∉ seen := by
  induction items generalizing seen with
  | nil => simp [distinctFrom]
  | cons b bs ih =>
    simp only [distinctFrom]
    split
    · rename_i h
      rw [ih]
      have : b ∈ seen := h
      grind
    · rename_i h
      have : b ∉ seen := by simpa using h
      simp only [List.mem_cons, ih, Std.HashSet.mem_insert, beq_iff_eq]
      grind

/-- Nothing is lost and nothing is new. -/
theorem mem_distinct {items : List α} {a : α} : a ∈ distinct items ↔ a ∈ items := by
  simp [distinct, mem_distinctFrom]

theorem nodup_distinctFrom (seen : Std.HashSet α) (items : List α) :
    (distinctFrom seen items).Nodup := by
  induction items generalizing seen with
  | nil => simp [distinctFrom]
  | cons b bs ih =>
    simp only [distinctFrom]
    split
    · exact ih seen
    · rw [List.nodup_cons]
      exact ⟨by simp [mem_distinctFrom], ih _⟩

/-- Nothing comes twice. -/
theorem nodup_distinct (items : List α) : (distinct items).Nodup := nodup_distinctFrom ∅ items

theorem prefix_distinctFrom {seen : Std.HashSet α} {items : List α} (h : items.Nodup)
    (hseen : ∀ a ∈ items, a ∉ seen) (others : List α) :
    items <+: distinctFrom seen (items ++ others) := by
  induction items generalizing seen with
  | nil => exact List.nil_prefix
  | cons b bs ih =>
    obtain ⟨hb, hbs⟩ := List.nodup_cons.mp h
    have hnew : seen.contains b = false := by
      simpa using hseen b List.mem_cons_self
    rw [List.cons_append, distinctFrom, hnew, if_neg Bool.false_ne_true, List.prefix_cons_inj]
    refine ih hbs fun a ha => ?_
    rw [Std.HashSet.mem_insert, not_or]
    refine ⟨fun heq => hb ?_, hseen a (List.mem_cons_of_mem _ ha)⟩
    rw [eq_of_beq heq]
    exact ha

/-- Items that are distinct already stay in front, whatever comes after them. -/
theorem prefix_distinct {items : List α} (h : items.Nodup) (others : List α) :
    items <+: distinct (items ++ others) :=
  prefix_distinctFrom h (by simp) others

theorem distinct_of_nodup {items : List α} (h : items.Nodup) : distinct items = items := by
  have front := prefix_distinct h []
  rw [List.append_nil] at front
  exact (front.eq_of_length_le (length_distinct_le items)).symm

end Dealer
