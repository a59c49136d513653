-- What is laid out for delivery. Every field is shown or counted, embeds are filled one
-- after the other, and texts are cut to their limits. Of the arithmetic on the limits
-- only one product can overflow, and then nothing is laid out.
import Dealer.Pages
import Mathlib.Data.List.Forall2

namespace Dealer

/-! ## Pieces -/

section Pieces

variable {α : Type} {n : Nat}

theorem pieces_eq_nil_iff (hn : n ≠ 0) (items : List α) : pieces n items = [] ↔ items = [] := by
  unfold pieces
  simp [hn]

/-- The pieces of a list are the list. -/
theorem flatten_pieces (hn : n ≠ 0) (items : List α) : (pieces n items).flatten = items := by
  fun_induction pieces n items with
  | case1 items h => simp [h.resolve_left hn]
  | case2 items h ih => rw [List.flatten_cons, ih, List.take_append_drop]

/-- There are no more pieces than have room for the items. -/
theorem length_pieces_le {items : List α} {k : Nat} (h : items.length ≤ n * k) :
    (pieces n items).length ≤ k := by
  fun_induction pieces n items generalizing k with
  | case1 items hnil => exact Nat.zero_le k
  | case2 items hnil ih =>
    have filled : items.length ≠ 0 := by simp_all
    cases k with
    | zero => exact absurd (Nat.le_zero.mp h) filled
    | succ k =>
      have rest : (items.drop n).length ≤ n * k := by
        rw [List.length_drop]
        rw [Nat.mul_succ] at h
        omega
      exact Nat.succ_le_succ (ih rest)

theorem length_of_mem_pieces {items : List α} :
    ∀ piece ∈ pieces n items, 1 ≤ piece.length ∧ piece.length ≤ n := by
  fun_induction pieces n items with
  | case1 items h => simp
  | case2 items h ih =>
    have filled : items.length ≠ 0 := by simp_all
    intro piece hpiece
    rcases List.mem_cons.mp hpiece with rfl | hpiece
    · rw [List.length_take]
      omega
    · exact ih piece hpiece

/-- All pieces but the last are full. -/
theorem length_of_mem_dropLast_pieces {items : List α} :
    ∀ piece ∈ (pieces n items).dropLast, piece.length = n := by
  fun_induction pieces n items with
  | case1 items h => simp
  | case2 items h ih =>
    have hn : n ≠ 0 := fun hn => h (Or.inl hn)
    by_cases hlast : items.drop n = []
    · rw [(pieces_eq_nil_iff hn _).mpr hlast]
      simp
    · rw [List.dropLast_cons_of_ne_nil (mt (pieces_eq_nil_iff hn _).mp hlast)]
      intro piece hpiece
      rcases List.mem_cons.mp hpiece with rfl | hpiece
      · rw [List.drop_eq_nil_iff] at hlast
        rw [List.length_take]
        omega
      · exact ih piece hpiece

end Pieces

/-! ## Texts that are cut -/

/-- What is left of a text when it is cut to so many characters. -/
structure Cut (longest : Nat) (whole cut : String) : Prop where
  short : cut.length ≤ longest
  /-- A text that fits stays as it is. -/
  fits : whole.length ≤ longest → cut = whole
  /-- Of a longer one the last place goes to an ellipsis. -/
  ends : longest < whole.length →
    cut.toList = if longest = 0 then [] else whole.toList.take (longest - 1) ++ ['…']

theorem truncate_cut (s : String) (longest : Nat) : Cut longest s (truncate s longest) := by
  unfold truncate
  simp only [String.length_toList]
  by_cases hfits : s.length ≤ longest
  · rw [if_pos hfits]
    exact ⟨hfits, fun _ => rfl, fun h => absurd hfits (Nat.not_le.mpr h)⟩
  · rw [if_neg hfits]
    by_cases hzero : longest = 0
    · rw [if_pos hzero]
      exact ⟨Nat.zero_le _, fun h => absurd h hfits, fun _ => by rw [if_pos hzero]; rfl⟩
    · rw [if_neg hzero]
      refine ⟨?_, fun h => absurd h hfits, fun _ => by rw [if_neg hzero, String.toList_ofList]⟩
      rw [← String.length_toList, String.toList_ofList, List.length_append, List.length_take,
        List.length_singleton]
      omega

namespace Limits

/-- A field is shown with its texts cut. -/
structure Shows (limits : Limits) (f shown : Field) : Prop where
  name : Cut limits.maxName.toNat f.name shown.name
  value : Cut limits.maxValue.toNat f.value shown.value
  inline : shown.inline = f.inline

theorem cutField_shows (limits : Limits) (f : Field) : limits.Shows f (limits.cutField f) :=
  ⟨truncate_cut _ _, truncate_cut _ _, rfl⟩

/-! ## The room in one message -/

/-- The room in one message: so many fields in each of so many embeds, one at least of both. -/
def room (limits : Limits) : Nat := max limits.maxFields.toNat 1 * max limits.maxEmbeds.toNat 1

theorem fieldsPerEmbed_toNat (limits : Limits) :
    limits.fieldsPerEmbed.toNat = max limits.maxFields.toNat 1 := UInt64.toNat_max _ _

theorem fieldsPerEmbed_ne_zero (limits : Limits) : limits.fieldsPerEmbed.toNat ≠ 0 := by
  rw [fieldsPerEmbed_toNat]
  omega

theorem room_pos (limits : Limits) : 1 ≤ limits.room := by
  unfold room
  exact Nat.mul_pos (by omega) (by omega)

theorem capacity_eq (limits : Limits) :
    limits.capacity = if limits.room < UInt64.size then .ok limits.room else .error .product := by
  have most : (max limits.maxEmbeds 1).toNat = max limits.maxEmbeds.toNat 1 := UInt64.toNat_max _ _
  rw [capacity, fieldsPerEmbed_toNat, most]
  rfl

/-! ## The fields that fit -/

/-- The fields that are shown where there is room for so many. Of too many fields the last place
goes to a notice that counts the others. -/
def shown (room : Nat) (fields : List Field) : List Field :=
  if room < fields.length then
    fields.take (room - 1) ++ [overflowNotice (fields.length - (room - 1))]
  else fields

theorem length_shown_le {room : Nat} (h : 1 ≤ room) (fields : List Field) :
    (shown room fields).length ≤ room := by
  unfold shown
  split
  · rw [List.length_append, List.length_take, List.length_singleton]
    omega
  · omega

theorem shown_eq_nil_iff (room : Nat) (fields : List Field) :
    shown room fields = [] ↔ fields = [] := by
  unfold shown
  split
  · rename_i hmore
    have : fields ≠ [] := by
      rintro rfl
      exact absurd hmore (Nat.not_lt_zero room)
    simp [this]
  · rfl

/-- Where the room is known, neither the place of the notice nor the number of hidden fields is less
than nothing. -/
theorem fitting_of_capacity {limits : Limits} {room : Nat} (h : limits.capacity = .ok room)
    (hroom : 1 ≤ room) (fields : List Field) : limits.fitting fields = .ok (shown room fields) := by
  unfold fitting shown
  rw [h, ok_bind]
  by_cases hmore : room < fields.length
  · rw [if_pos hmore, if_pos hmore, Overflow.subtract_of_le hroom, ok_bind,
      Overflow.subtract_of_le (by omega)]
    rfl
  · rw [if_neg hmore, if_neg hmore]
    rfl

theorem fitting_eq (limits : Limits) (fields : List Field) :
    limits.fitting fields =
      if limits.room < UInt64.size then .ok (shown limits.room fields) else .error .product := by
  have capacity := limits.capacity_eq
  by_cases h : limits.room < UInt64.size
  · rw [if_pos h] at capacity ⊢
    exact fitting_of_capacity capacity limits.room_pos fields
  · rw [if_neg h] at capacity ⊢
    rw [fitting, capacity, error_bind]

/-! ## Embeds -/

theorem paginate_eq (limits : Limits) (title : String) (fields : List Field) :
    limits.paginate title fields =
      if limits.room < UInt64.size then .ok (limits.layOut title (shown limits.room fields))
      else .error .product := by
  rw [paginate, fitting_eq]
  split <;> rfl

/-- Fields of any number make an embed, and no fields make none. -/
theorem layOut_eq_nil_iff (limits : Limits) (title : String) (fields : List Field) :
    limits.layOut title fields = [] ↔ fields = [] := by
  rw [layOut, List.map_eq_nil_iff, pieces_eq_nil_iff limits.fieldsPerEmbed_ne_zero]

/-- The fields of all embeds are those that are laid out, with their texts cut. -/
theorem fieldsOf_layOut (limits : Limits) (title : String) (fields : List Field) :
    Output.fieldsOf (limits.layOut title fields) = fields.map limits.cutField := by
  unfold Output.fieldsOf layOut
  rw [List.flatMap_map]
  show (pieces _ _).flatMap (List.map limits.cutField) = _
  rw [List.flatMap_def, ← List.map_flatten, flatten_pieces limits.fieldsPerEmbed_ne_zero]

/-- What the embeds for some fields under one title are. -/
structure Pages (limits : Limits) (title : String) (fields : List Field) (embeds : List Embed) :
    Prop where
  few : embeds.length ≤ max limits.maxEmbeds.toNat 1
  filled : ∀ e ∈ embeds, 1 ≤ e.fields.length ∧ e.fields.length ≤ max limits.maxFields.toNat 1
  /-- An embed is full before the next begins. -/
  full : ∀ e ∈ embeds.dropLast, e.fields.length = max limits.maxFields.toNat 1
  titled : ∀ e ∈ embeds, Cut limits.maxTitle.toNat title e.title
  /-- Fields that there is room for are all shown. -/
  complete : fields.length ≤ limits.room →
    List.Forall₂ limits.Shows fields (Output.fieldsOf embeds)
  /-- Of others one less than there is room for is shown, and a notice counts the rest. -/
  counted : limits.room < fields.length → ∃ hidden, limits.room - 1 + hidden = fields.length ∧
    List.Forall₂ limits.Shows (fields.take (limits.room - 1) ++ [overflowNotice hidden])
      (Output.fieldsOf embeds)

theorem fieldsOf_layOut_shows (limits : Limits) (title : String) (fields : List Field) :
    List.Forall₂ limits.Shows fields (Output.fieldsOf (limits.layOut title fields)) := by
  rw [fieldsOf_layOut, List.forall₂_map_right_iff]
  exact List.forall₂_same.mpr fun f _ => limits.cutField_shows f

theorem pages_layOut (limits : Limits) (title : String) (fields : List Field) :
    limits.Pages title fields (limits.layOut title (shown limits.room fields)) := by
  have shows := limits.fieldsOf_layOut_shows title (shown limits.room fields)
  constructor
  case few =>
    unfold layOut
    rw [List.length_map, fieldsPerEmbed_toNat]
    exact length_pieces_le (length_shown_le limits.room_pos fields)
  case filled =>
    intro e he
    obtain ⟨piece, hpiece, rfl⟩ := List.mem_map.mp he
    rw [List.length_map, ← fieldsPerEmbed_toNat]
    exact length_of_mem_pieces piece hpiece
  case full =>
    intro e he
    unfold layOut at he
    rw [← List.map_dropLast] at he
    obtain ⟨piece, hpiece, rfl⟩ := List.mem_map.mp he
    rw [List.length_map, ← fieldsPerEmbed_toNat]
    exact length_of_mem_dropLast_pieces piece hpiece
  case titled =>
    intro e he
    obtain ⟨piece, -, rfl⟩ := List.mem_map.mp he
    exact truncate_cut title _
  case complete =>
    intro hfits
    have all : shown limits.room fields = fields := if_neg (Nat.not_lt.mpr hfits)
    rwa [all] at shows ⊢
  case counted =>
    intro hmore
    have some : shown limits.room fields = fields.take (limits.room - 1) ++
        [overflowNotice (fields.length - (limits.room - 1))] := if_pos hmore
    rw [some] at shows ⊢
    exact ⟨fields.length - (limits.room - 1), by omega, shows⟩

/-- Nothing is lost in silence when fields are laid out. Where the room in one message is a number
of 64 bits, there are embeds. They are as many as are allowed at most, each is full before the next
begins, and they show all fields in order, or all that there is room for beside a notice which
counts the rest. Texts that fit stay as they are, and longer ones are cut to their limits. -/
theorem every_field_is_shown_or_counted {limits : Limits} (h : limits.room < UInt64.size)
    (title : String) (fields : List Field) :
    ∃ embeds, limits.paginate title fields = .ok embeds ∧ limits.Pages title fields embeds := by
  refine ⟨_, ?_, limits.pages_layOut title fields⟩
  rw [paginate_eq, if_pos h]

/-- Limits of two fields in each of two embeds, and of a few characters. -/
def twoByTwo : Limits := { maxFields := 2, maxEmbeds := 2, maxTitle := 3, maxName := 4 }

/-- Seven fields, of which the second stands beside the first. -/
def sevenFields : List Field :=
  [⟨"a", "1", false⟩, ⟨"b", "2", true⟩, ⟨"c", "3", false⟩, ⟨"d", "4", false⟩, ⟨"e", "5", false⟩,
    ⟨"f", "6", false⟩, ⟨"g", "7", false⟩]

/-- Two embeds of two fields have room for three fields and a notice that counts the other four. -/
theorem three_of_seven_are_shown :
    twoByTwo.room < UInt64.size ∧
    twoByTwo.paginate "Title" sevenFields = .ok
      [⟨"Ti…", [⟨"a", "1", false⟩, ⟨"b", "2", true⟩]⟩,
        ⟨"Ti…", [⟨"c", "3", false⟩, ⟨"Too…", "…and 4 more", false⟩]⟩] ∧
    twoByTwo.Pages "Title" sevenFields
      [⟨"Ti…", [⟨"a", "1", false⟩, ⟨"b", "2", true⟩]⟩,
        ⟨"Ti…", [⟨"c", "3", false⟩, ⟨"Too…", "…and 4 more", false⟩]⟩] := by
  have room : twoByTwo.room < UInt64.size := by decide
  have laidOut : twoByTwo.paginate "Title" sevenFields = .ok
      [⟨"Ti…", [⟨"a", "1", false⟩, ⟨"b", "2", true⟩]⟩,
        ⟨"Ti…", [⟨"c", "3", false⟩, ⟨"Too…", "…and 4 more", false⟩]⟩] := by decide +kernel
  obtain ⟨embeds, hembeds, pages⟩ := every_field_is_shown_or_counted room "Title" sevenFields
  cases laidOut.symm.trans hembeds
  exact ⟨room, laidOut, pages⟩

/-! ## Overflow -/

/-- Of the numbers that are worked out for a message only the product of the two limits can leave
the range of 64 bits. Where it stays in the range it is the room that there is, and what fits is
what exact numbers give. Where it does not, there is no capacity, and no fields at all can be laid
out. So neither of the subtractions behind the product ever goes below zero. -/
theorem only_the_product_of_the_limits_leaves_its_range (limits : Limits) (title : String)
    (fields : List Field) :
    limits.capacity =
        (if limits.room < UInt64.size then .ok limits.room else .error .product) ∧
      limits.fitting fields =
        (if limits.room < UInt64.size then .ok (shown limits.room fields) else .error .product) ∧
      ∀ cause, limits.paginate title fields = .error cause ↔
        cause = .product ∧ UInt64.size ≤ limits.room := by
  refine ⟨limits.capacity_eq, limits.fitting_eq fields, fun cause => ?_⟩
  rw [paginate_eq]
  by_cases h : limits.room < UInt64.size
  · rw [if_pos h]
    exact ⟨fun heq => (nomatch heq), fun heq => absurd heq.2 (Nat.not_le.mpr h)⟩
  · rw [if_neg h, Except.error.injEq, and_iff_left (Nat.le_of_not_lt h)]
    exact eq_comm

/-- Limits whose product is the first number that 64 bits cannot hold. -/
def farTooLarge : Limits := { maxFields := 4294967296, maxEmbeds := 4294967296 }

/-- With two limits that are large enough there is an overflow where the capacity is worked out, and
a single field cannot be laid out, although there would be far more than enough room for it. -/
theorem two_large_limits_overflow :
    farTooLarge.room = UInt64.size ∧ farTooLarge.capacity = .error .product ∧
      farTooLarge.paginate "Script" [⟨"Keep it", "Note", false⟩] = .error .product := by
  decide +kernel

end Limits
end Dealer
