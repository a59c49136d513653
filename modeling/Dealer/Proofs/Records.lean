-- What the records of a game say. They are written deal by deal, and at any time
-- they are what the deals gave: to each member everything in the order in which it
-- came, and what came last once more.
import Dealer.Holdings
import Dealer.Proofs.Entries

namespace Dealer

/-! ## What deals give -/

/-- What a member finds in some hands, of which several may be the member's. -/
def cardsFor (member : String) (hands : List Hand) : List String :=
  hands.flatMap fun hand => if hand.1 = member then hand.2 else []

/-- What a deal gives to a member. -/
def Dealt.given (d : Dealt) (member : String) : List String := cardsFor member d.hands

/-- A card is in some hand exactly when somebody finds it. -/
theorem mem_cards_iff {hands : List Hand} {label : String} :
    label ∈ hands.flatMap Prod.snd ↔ ∃ member, label ∈ cardsFor member hands := by
  constructor
  · intro h
    obtain ⟨hand, hhand, hlabel⟩ := List.mem_flatMap.mp h
    refine ⟨hand.1, List.mem_flatMap.mpr ⟨hand, hhand, ?_⟩⟩
    rw [if_pos rfl]
    exact hlabel
  · rintro ⟨member, h⟩
    obtain ⟨hand, hhand, hlabel⟩ := List.mem_flatMap.mp h
    split at hlabel
    · exact List.mem_flatMap.mpr ⟨hand, hhand, hlabel⟩
    · cases hlabel

/-! ## Lists of the members -/

/-- A list of what the members were given. Who was given nothing is not listed. -/
structure Listed (entries : ByName (List String)) (given : String → List String) : Prop where
  rising : entries.Rising
  entry : ∀ member, entries.get? member =
    if given member = [] then none else some (given member)

namespace Listed

variable {entries : ByName (List String)} {given : String → List String}

theorem empty : Listed [] fun _ => [] := ⟨List.Pairwise.nil, fun _ => rfl⟩

theorem congr {given' : String → List String} (h : Listed entries given)
    (heq : ∀ member, given' member = given member) : Listed entries given' := by
  rw [funext heq]
  exact h

theorem getD_get? (h : Listed entries given) (member : String) :
    (entries.get? member).getD [] = given member := by
  rw [h.entry]
  split
  · rename_i hnone
    exact hnone.symm
  · rfl

theorem get?_eq_some (h : Listed entries given) {member : String} {items : List String} :
    entries.get? member = some items ↔ given member = items ∧ items ≠ [] := by
  rw [h.entry]
  split
  · rename_i hnone
    rw [hnone]
    constructor
    · intro heq
      cases heq
    · rintro ⟨rfl, hne⟩
      exact absurd rfl hne
  · rename_i hsome
    constructor
    · intro heq
      cases heq
      exact ⟨rfl, hsome⟩
    · rintro ⟨rfl, -⟩
      rfl

theorem exists_mem_iff (h : Listed entries given) {label : String} :
    (∃ member items, entries.get? member = some items ∧ label ∈ items) ↔
      ∃ member, label ∈ given member := by
  constructor
  · rintro ⟨member, items, hitems, hlabel⟩
    obtain ⟨rfl, -⟩ := h.get?_eq_some.mp hitems
    exact ⟨member, hlabel⟩
  · rintro ⟨member, hlabel⟩
    exact ⟨member, given member, h.get?_eq_some.mpr ⟨rfl, List.ne_nil_of_mem hlabel⟩, hlabel⟩

/-- A hand is added behind what its member was given before. -/
theorem addHand (h : Listed entries given) (hand : Hand) :
    Listed (if hand.2 = [] then entries else entries.append hand.1 hand.2)
      fun member => given member ++ if hand.1 = member then hand.2 else [] := by
  by_cases hempty : hand.2 = []
  · rw [if_pos hempty, hempty]
    simpa using h
  · rw [if_neg hempty]
    refine ⟨h.rising.put _ _, fun member => ?_⟩
    rw [ByName.append, ByName.get?_put, h.getD_get?]
    by_cases hmember : member = hand.1
    · subst hmember
      simp [hempty]
    · simp [hmember, Ne.symm hmember, h.entry]

theorem addHands (h : Listed entries given) (hands : List Hand) :
    Listed (Holdings.addHands entries hands) fun member =>
      given member ++ cardsFor member hands := by
  induction hands generalizing entries given with
  | nil => exact h.congr fun member => List.append_nil _
  | cons hand hands ih =>
    refine (ih (h.addHand hand)).congr fun member => ?_
    rw [cardsFor, List.flatMap_cons, ← List.append_assoc]
    rfl

end Listed

/-! ## Records -/

/-- Records say what some deals gave: the last of them, and all together. -/
structure Holdings.Mirrors (held : Holdings) (deals : List Dealt) : Prop where
  recent : Listed held.recent fun member => deals.getLast?.elim [] fun d => d.given member
  total : Listed held.total fun member => deals.flatMap fun d => d.given member
  nodup_used : ∀ cumulative, (held.used cumulative).Nodup
  mem_used : ∀ cumulative label, label ∈ held.used cumulative ↔
    ∃ member items, (held.hands cumulative).get? member = some items ∧ label ∈ items

namespace Holdings.Mirrors

variable {held : Holdings} {deals : List Dealt}

theorem start : Mirrors {} [] where
  recent := Listed.empty
  total := Listed.empty
  nodup_used cumulative := by cases cumulative <;> exact List.nodup_nil
  mem_used cumulative label := by
    cases cumulative <;> simp [used, hands, ByName.get?]

/-- A deal is recorded behind the deals before it. -/
theorem record (h : held.Mirrors deals) (d : Dealt) : (held.record d).Mirrors (deals ++ [d]) := by
  have recent : Listed (held.record d).recent fun member =>
      (deals ++ [d]).getLast?.elim [] fun d => d.given member := by
    refine (Listed.empty.addHands d.hands).congr fun member => ?_
    rw [List.getLast?_concat]
    rfl
  have total : Listed (held.record d).total fun member =>
      (deals ++ [d]).flatMap fun d => d.given member := by
    refine (h.total.addHands d.hands).congr fun member => ?_
    rw [List.flatMap_append, List.flatMap_singleton]
    rfl
  refine ⟨recent, total, fun cumulative => ?_, fun cumulative label => ?_⟩
  · cases cumulative <;> exact nodup_distinct _
  · cases cumulative with
    | false =>
      refine Iff.trans ?_ recent.exists_mem_iff.symm
      rw [List.getLast?_concat]
      exact mem_distinct.trans mem_cards_iff
    | true =>
      refine Iff.trans ?_ total.exists_mem_iff.symm
      have old : label ∈ held.totalUsed ↔
          ∃ member, label ∈ deals.flatMap fun d => d.given member :=
        (h.mem_used true label).trans h.total.exists_mem_iff
      have new : label ∈ d.hands.flatMap Prod.snd ↔ ∃ member, label ∈ d.given member :=
        mem_cards_iff
      have both : label ∈ (held.record d).totalUsed ↔
          label ∈ held.totalUsed ∨ label ∈ d.hands.flatMap Prod.snd := by
        rw [Holdings.record, mem_distinct, List.mem_append]
      refine both.trans ?_
      rw [old, new, ← exists_or]
      refine exists_congr fun member => ?_
      rw [List.flatMap_append, List.mem_append, List.flatMap_singleton]

/-- Whatever is recorded after some deals, the records say what all of them gave. -/
theorem foldl_record (h : held.Mirrors deals) (later : List Dealt) :
    (later.foldl Holdings.record held).Mirrors (deals ++ later) := by
  induction later generalizing held deals with
  | nil => simpa using h
  | cons d later ih => simpa using ih (h.record d)

theorem of_eq (h : held.Mirrors deals) (member : String) :
    held.of member = deals.flatMap fun d => d.given member :=
  h.total.getD_get? member

end Holdings.Mirrors

/-- What was recorded of some deals is what they gave. The records of the last deal hold what each
member got in it, and the records of all deals what each member got in their order; the labels are
those of the records, each once. So what came last stands at the end of all that a member was given,
and another deal adds behind what is recorded and changes nothing of it. -/
theorem records_say_what_the_deals_gave (deals : List Dealt) :
    let held := deals.foldl Holdings.record {}
    held.Mirrors deals ∧
      (∀ member, held.of member = deals.flatMap fun d => d.given member) ∧
      (∀ member items, held.recent.get? member = some items → items <:+ held.of member) ∧
      ∀ d, held.totalUsed <+: (held.record d).totalUsed ∧
        ∀ member items, held.total.get? member = some items →
          (held.record d).total.get? member = some (items ++ d.given member) := by
  have mirrors : (deals.foldl Holdings.record {}).Mirrors deals := by
    simpa using Holdings.Mirrors.start.foldl_record deals
  refine ⟨mirrors, mirrors.of_eq, fun member items hitems => ?_, fun d => ⟨?_, ?_⟩⟩
  · obtain ⟨rfl, hne⟩ := mirrors.recent.get?_eq_some.mp hitems
    rw [mirrors.of_eq]
    cases hlast : deals.getLast? with
    | none => exact List.nil_suffix
    | some d =>
      obtain ⟨before, rfl⟩ := List.getLast?_eq_some_iff.mp hlast
      rw [List.flatMap_append, List.flatMap_singleton]
      exact List.suffix_append _ _
  · exact prefix_distinct (mirrors.nodup_used true) _
  · intro member items hitems
    obtain ⟨rfl, hne⟩ := mirrors.total.get?_eq_some.mp hitems
    refine (mirrors.record d).total.get?_eq_some.mpr ⟨?_, ?_⟩
    · rw [List.flatMap_append, List.flatMap_singleton]
    · simp [hne]

end Dealer
