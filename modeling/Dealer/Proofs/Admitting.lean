-- Who is admitted. A script checks a table in three steps: the moderator, the least and
-- the most members. A table is admitted where it passes all three, each by itself, and
-- else the first step that it does not pass decides.
import Dealer.Proofs.Counting
import Dealer.Proofs.Importing

namespace Dealer

/-! ## Members -/

/-- Where a list is filtered and repetitions are left out, what is left stands in the order in which
the list has it first. -/
theorem pairwise_distinctFrom_filter {α : Type} [BEq α] [Hashable α] [LawfulBEq α]
    [LawfulHashable α] (keep : α → Bool) (seen : Std.HashSet α) (items : List α) :
    (distinctFrom seen (items.filter keep)).Pairwise fun a b => items.idxOf a < items.idxOf b := by
  induction items generalizing seen with
  | nil => exact List.Pairwise.nil
  | cons c items ih =>
    -- What is not the first item stands one place further back.
    have shift {seen : Std.HashSet α}
        (hc : ∀ a ∈ distinctFrom seen (items.filter keep), c ≠ a) :
        (distinctFrom seen (items.filter keep)).Pairwise fun a b =>
          (c :: items).idxOf a < (c :: items).idxOf b := by
      refine (ih seen).imp_of_mem fun {a b} ha hb hlt => ?_
      rw [List.idxOf_cons_ne _ (hc a ha), List.idxOf_cons_ne _ (hc b hb)]
      exact Nat.succ_lt_succ hlt
    by_cases hkeep : keep c = true
    · rw [List.filter_cons_of_pos hkeep, distinctFrom]
      split
      · rename_i hseen
        refine shift fun a ha heq => (mem_distinctFrom.mp ha).2 ?_
        rw [← heq]
        exact hseen
      · have hc (a : α) (ha : a ∈ distinctFrom (seen.insert c) (items.filter keep)) : c ≠ a :=
          fun heq => (mem_distinctFrom.mp ha).2 (by simp [heq])
        refine List.Pairwise.cons (fun a ha => ?_) (shift hc)
        rw [List.idxOf_cons_self, List.idxOf_cons_ne _ (hc a ha)]
        exact Nat.succ_pos _
    · rw [List.filter_cons_of_neg hkeep]
      refine shift fun a ha heq => hkeep ?_
      rw [heq]
      exact (List.mem_filter.mp (mem_distinctFrom.mp ha).1).2

/-- The members of a table: every participant once, but for the moderator, in the order in which
they are seen first. -/
structure FirstSeen (table : Table) (members : List String) : Prop where
  nodup : members.Nodup
  mem_iff : ∀ p, p ∈ members ↔ p ∈ table.participants ∧ table.moderator ≠ some p
  order : members.Pairwise fun p q => table.participants.idxOf p < table.participants.idxOf q

theorem Table.members_firstSeen (table : Table) : FirstSeen table table.members where
  nodup := nodup_distinct _
  mem_iff p := by
    rw [Table.members, mem_distinct, List.mem_filter]
    simp
  order := pairwise_distinctFrom_filter _ _ _

/-! ## One bound -/

/-- The count that a quantity is by itself in a setup. -/
def Quantity.Counts (setup : Setup) (q : Quantity) (n : Nat) : Prop :=
  ∃ x, q.Gives setup x ∧ IsCount x n

/-- A bound is kept: it is not declared, or it is by itself a count that is kept. -/
def BoundKept (setup : Setup) (declared : Option Quantity) (keeps : Nat → Prop) : Prop :=
  ∀ q, declared = some q → ∃ n, q.Counts setup n ∧ keeps n

section

variable {setup : Setup} {what : Counted} {q : Quantity} {n : Nat} {m t : Memo}

theorem Quantity.counts_of_count (hm : Grounded setup m)
    (h : q.count (numberOf setup []) what m = .ok n t) : q.Counts setup n ∧ Grounded setup t := by
  obtain ⟨x, after, hx, hn⟩ := Eval.exists_of_bind_ok h
  obtain ⟨hafter, again⟩ := q.eval_replays setup m x after hm hx
  obtain ⟨alone, halone, -⟩ := again [] .start
  cases hcount : toCount what x with
  | error e =>
    rw [hcount] at hn
    cases hn
  | ok k =>
    rw [hcount] at hn
    cases hn
    exact ⟨⟨x, ⟨alone, halone⟩, toCount_eq_ok_iff.mp hcount⟩, hafter⟩

/-- What is known already does not change a count. -/
theorem Quantity.Counts.count (h : q.Counts setup n) (hm : Grounded setup m) (what : Counted) :
    ∃ t, q.count (numberOf setup []) what m = .ok n t := by
  obtain ⟨x, ⟨alone, halone⟩, hcount⟩ := h
  obtain ⟨-, again⟩ := q.eval_replays setup [] x alone .start halone
  obtain ⟨t, ht, -⟩ := again m hm
  refine ⟨t, ?_⟩
  rw [Quantity.count, Eval.bind_ok ht, toCount_eq_ok_iff.mpr hcount]
  rfl

end

/-- How a declared bound refuses a table: it is no count, or one that is not kept. -/
inductive BoundRefuses (setup : Setup) (what : Counted) (declared : Option Quantity)
    (keeps : Nat → Prop) (refusal : Nat → MembershipError) (m : Memo) :
    EStateM.Result EvalError Memo Admitted → Prop
  | unresolved {q : Quantity} {e : EvalError} {t : Memo} (hq : declared = some q)
      (h : q.count (numberOf setup []) what m = .error e t) :
      BoundRefuses setup what declared keeps refusal m (.error e t)
  | broken {q : Quantity} {n : Nat} {t : Memo} (hq : declared = some q) (hn : q.Counts setup n)
      (h : q.count (numberOf setup []) what m = .ok n t) (hkeeps : ¬ keeps n) :
      BoundRefuses setup what declared keeps refusal m (.ok (.error (refusal n)) t)

namespace Script

variable {script : Script} {table : Table} {what : Counted} {declared : Option Quantity}
  {keeps : Nat → Prop} [DecidablePred keeps] {refusal : Nat → MembershipError} {m : Memo}

theorem bound_some_of_ok {q : Quantity} {n : Nat} {t : Memo}
    (h : q.count (numberOf script.setup []) what m = .ok n t) :
    script.bound what (some q) m = .ok (some n) t := by
  rw [bound, ← bind_pure_comp, Eval.bind_ok h]
  rfl

theorem bound_some_of_error {q : Quantity} {e : EvalError} {t : Memo}
    (h : q.count (numberOf script.setup []) what m = .error e t) :
    script.bound what (some q) m = .error e t := by
  rw [bound, ← bind_pure_comp, Eval.bind_error h]

/-- The step for a bound, and the steps after it. -/
def boundThen (script : Script) (what : Counted) (declared : Option Quantity) (keeps : Nat → Prop)
    [DecidablePred keeps] (refusal : Nat → MembershipError) (rest : Eval Memo Admitted) :
    Eval Memo Admitted := do
  match ← script.bound what declared with
  | none => rest
  | some n => if keeps n then rest else pure (.error (refusal n))

theorem boundThen_of_kept (hm : Grounded script.setup m)
    (h : BoundKept script.setup declared keeps) :
    ∃ value t, script.bound what declared m = .ok value t ∧ Grounded script.setup t ∧
      ∀ rest, script.boundThen what declared keeps refusal rest m = rest t := by
  cases declared with
  | none => exact ⟨none, m, rfl, hm, fun rest => rfl⟩
  | some q =>
    obtain ⟨n, hn, hkeeps⟩ := h q rfl
    obtain ⟨t, ht⟩ := hn.count hm what
    have hbound : script.bound what (some q) m = .ok (some n) t := bound_some_of_ok ht
    refine ⟨some n, t, hbound, (Quantity.counts_of_count hm ht).2, fun rest => ?_⟩
    rw [boundThen, Eval.bind_ok hbound]
    exact congrFun (if_pos hkeeps) t

/-- Where a bound is not kept, it decides whatever steps come after it. -/
theorem boundThen_of_not_kept (hm : Grounded script.setup m)
    (h : ¬ BoundKept script.setup declared keeps) :
    ∃ r, BoundRefuses script.setup what declared keeps refusal m r ∧
      ∀ rest, script.boundThen what declared keeps refusal rest m = r := by
  cases declared with
  | none => exact absurd (fun q hq => by cases hq) h
  | some q =>
    cases hcount : q.count (numberOf script.setup []) what m with
    | error e t =>
      refine ⟨_, .unresolved rfl hcount, fun rest => ?_⟩
      rw [boundThen, Eval.bind_error (bound_some_of_error hcount)]
    | ok n t =>
      have hn := (Quantity.counts_of_count hm hcount).1
      have hkeeps : ¬ keeps n := fun hkeeps => h fun q' hq' => by
        cases hq'
        exact ⟨n, hn, hkeeps⟩
      refine ⟨_, .broken rfl hn hcount hkeeps, fun rest => ?_⟩
      rw [boundThen, Eval.bind_ok (bound_some_of_ok hcount)]
      exact congrFun (if_neg hkeeps) t

/-! ## The moderator -/

/-- A table has a moderator if the script asks for one. A script that does not say asks for none. -/
def ModeratorSeated (script : Script) (table : Table) : Prop :=
  ∃ b, script.requireModerator.elim (b = false) (fun f => f.Gives script.setup b) ∧
    (b = true → table.moderator.isSome = true)

/-- How the step for the moderator refuses a table. -/
inductive ModeratorRefuses (script : Script) (table : Table) :
    EStateM.Result EvalError Memo Admitted → Prop
  | unresolved {e : EvalError} {t : Memo} (h : script.moderated [] = .error e t) :
      ModeratorRefuses script table (.error e t)
  | missing {t : Memo} (h : script.moderated [] = .ok true t) (hnone : table.moderator = none) :
      ModeratorRefuses script table (.ok (.error .moderatorRequired) t)

/-- The step for the moderator, and the steps after it. -/
def moderatorThen (script : Script) (table : Table) (rest : Eval Memo Admitted) :
    Eval Memo Admitted := do
  let b ← script.moderated
  if b && table.moderator.isNone then pure (.error .moderatorRequired) else rest

theorem moderated_ok_iff {b : Bool} :
    (∃ t, script.moderated [] = .ok b t) ↔
      script.requireModerator.elim (b = false) fun f => f.Gives script.setup b := by
  unfold moderated
  cases script.requireModerator with
  | none =>
    constructor
    · rintro ⟨t, ht⟩
      cases ht
      rfl
    · rintro rfl
      exact ⟨[], rfl⟩
  | some f => exact Iff.rfl

theorem grounded_of_moderated {b : Bool} {t : Memo} (h : script.moderated [] = .ok b t) :
    Grounded script.setup t := by
  unfold moderated at h
  cases hf : script.requireModerator with
  | none =>
    rw [hf] at h
    cases h
    exact .start
  | some f =>
    rw [hf] at h
    exact (f.eval_replays script.setup [] b t .start h).1

theorem moderatorThen_of_seated (h : script.ModeratorSeated table) :
    ∃ b t, script.moderated [] = .ok b t ∧ Grounded script.setup t ∧
      ∀ rest, script.moderatorThen table rest [] = rest t := by
  obtain ⟨b, hb, hseated⟩ := h
  obtain ⟨t, ht⟩ := moderated_ok_iff.mpr hb
  have passes : ¬ (b && table.moderator.isNone) = true := by
    rw [Bool.and_eq_true, Option.isNone_iff_eq_none]
    rintro ⟨htrue, hnone⟩
    have hsome := hseated htrue
    rw [hnone] at hsome
    cases hsome
  refine ⟨b, t, ht, grounded_of_moderated ht, fun rest => ?_⟩
  rw [moderatorThen, Eval.bind_ok ht]
  exact congrFun (if_neg passes) t

theorem moderatorThen_of_not_seated (h : ¬ script.ModeratorSeated table) :
    ∃ r, script.ModeratorRefuses table r ∧ ∀ rest, script.moderatorThen table rest [] = r := by
  cases hb : script.moderated [] with
  | error e t =>
    exact ⟨_, .unresolved hb, fun rest => by rw [moderatorThen, Eval.bind_error hb]⟩
  | ok b t =>
    have asked : b = true ∧ table.moderator = none := by
      by_contra hpasses
      refine h ⟨b, moderated_ok_iff.mp ⟨t, hb⟩, fun htrue => ?_⟩
      rw [Option.isSome_iff_ne_none]
      exact fun hnone => hpasses ⟨htrue, hnone⟩
    obtain ⟨rfl, hnone⟩ := asked
    refine ⟨_, .missing hb hnone, fun rest => ?_⟩
    rw [moderatorThen, Eval.bind_ok hb, hnone]
    rfl

/-! ## All steps -/

/-- A table has as many members as the script asks for. -/
def EnoughMembers (script : Script) (table : Table) : Prop :=
  BoundKept script.setup script.minMembers (· ≤ table.members.length)

/-- A table has no more members than the script allows. -/
def FewEnoughMembers (script : Script) (table : Table) : Prop :=
  BoundKept script.setup script.maxMembers (table.members.length ≤ ·)

/-- A test for what is below a bound, turned round. -/
theorem ite_lt {α : Type} (m n : Nat) (below reached : α) :
    (if m < n then below else reached) = if n ≤ m then reached else below := by
  by_cases h : m < n
  · rw [if_pos h, if_neg (Nat.not_le.mpr h)]
  · rw [if_neg h, if_pos (Nat.le_of_not_lt h)]

/-- The last step. -/
theorem mostThen_eq (script : Script) (table : Table) :
    (do
      let most ← script.bound .maxMembers script.maxMembers
      if let some n := most then
        if n < table.members.length then
          return .error (.tooMany table.members.length n)
      return .ok table.members : Eval Memo Admitted) =
      script.boundThen .maxMembers script.maxMembers (table.members.length ≤ ·)
        (.tooMany table.members.length) (pure (.ok table.members)) := by
  unfold boundThen
  refine bind_congr fun most => ?_
  cases most with
  | none => rfl
  | some n => exact ite_lt n table.members.length _ _

/-- An admission takes its steps one after the other. -/
theorem admitted_eq (script : Script) (table : Table) :
    script.admitted table =
      script.moderatorThen table
        (script.boundThen .minMembers script.minMembers (· ≤ table.members.length)
          (.tooFew table.members.length)
          (script.boundThen .maxMembers script.maxMembers (table.members.length ≤ ·)
            (.tooMany table.members.length) (pure (.ok table.members)))) := by
  rw [← mostThen_eq]
  unfold admitted moderatorThen boundThen
  refine bind_congr fun b => ?_
  dsimp only
  split
  · rfl
  · refine bind_congr fun least => ?_
    cases least with
    | none => rfl
    | some n => exact ite_lt table.members.length n _ _

theorem admitted_of_all (hseated : script.ModeratorSeated table)
    (henough : script.EnoughMembers table) (hfew : script.FewEnoughMembers table) :
    ∃ t, script.admitted table [] = .ok (.ok table.members) t := by
  obtain ⟨b, m, -, hm, hrest⟩ := moderatorThen_of_seated hseated
  obtain ⟨least, m', -, hm', hrest'⟩ := boundThen_of_kept hm henough
  obtain ⟨most, t, -, -, hrest''⟩ := boundThen_of_kept hm' hfew
  exact ⟨t, by rw [admitted_eq, hrest, hrest', hrest'']; rfl⟩

theorem all_of_admitted {found : List String} {t : Memo}
    (h : script.admitted table [] = .ok (.ok found) t) :
    script.ModeratorSeated table ∧ script.EnoughMembers table ∧ script.FewEnoughMembers table := by
  rw [admitted_eq] at h
  by_cases hseated : script.ModeratorSeated table
  · obtain ⟨b, m, -, hm, hrest⟩ := moderatorThen_of_seated hseated
    rw [hrest] at h
    by_cases henough : script.EnoughMembers table
    · obtain ⟨least, m', -, hm', hrest⟩ := boundThen_of_kept hm henough
      rw [hrest] at h
      by_cases hfew : script.FewEnoughMembers table
      · exact ⟨hseated, henough, hfew⟩
      · obtain ⟨r, hr, hrest⟩ := boundThen_of_not_kept hm' hfew
        rw [hrest] at h
        cases h ▸ hr
    · obtain ⟨r, hr, hrest⟩ := boundThen_of_not_kept hm henough
      rw [hrest] at h
      cases h ▸ hr
  · obtain ⟨r, hr, hrest⟩ := moderatorThen_of_not_seated hseated
    rw [hrest] at h
    cases h ▸ hr

/-- How a script decides on a table. -/
structure Decides (script : Script) (table : Table) : Prop where
  members : FirstSeen table table.members
  /-- The table is admitted where it passes all steps. -/
  admits : (∃ t, script.admitted table [] = .ok (.ok table.members) t) ↔
    script.ModeratorSeated table ∧ script.EnoughMembers table ∧ script.FewEnoughMembers table
  /-- Nobody else is dealt to. -/
  only : ∀ found t, script.admitted table [] = .ok (.ok found) t → found = table.members
  /-- Where the moderator is missing, both bounds may be any. -/
  moderator : ¬ script.ModeratorSeated table → ∃ r, script.ModeratorRefuses table r ∧
    ∀ least most, { script with minMembers := least, maxMembers := most }.admitted table [] = r
  /-- Where there are too few members, the other bound may be any. -/
  least : script.ModeratorSeated table → ¬ script.EnoughMembers table →
    ∃ b m r, script.moderated [] = .ok b m ∧
      BoundRefuses script.setup .minMembers script.minMembers (· ≤ table.members.length)
        (.tooFew table.members.length) m r ∧
      ∀ most, { script with maxMembers := most }.admitted table [] = r
  most : script.ModeratorSeated table → script.EnoughMembers table →
    ¬ script.FewEnoughMembers table →
      ∃ b m least m', script.moderated [] = .ok b m ∧
        script.bound .minMembers script.minMembers m = .ok least m' ∧
        BoundRefuses script.setup .maxMembers script.maxMembers (table.members.length ≤ ·)
          (.tooMany table.members.length) m' (script.admitted table [])

end Script

/-- A table is admitted exactly where the script allows it. The members are then all participants,
each once and in the order of their first places, without the moderator. Else the table is refused
for the first of the three reasons: the moderator, too few members, too many. The steps after it are
not taken. -/
theorem a_table_is_admitted_exactly_where_the_script_allows_it (script : Script) (table : Table) :
    script.Decides table where
  members := table.members_firstSeen
  admits := by
    constructor
    · rintro ⟨t, h⟩
      exact Script.all_of_admitted h
    · rintro ⟨hseated, henough, hfew⟩
      exact Script.admitted_of_all hseated henough hfew
  only found t h := by
    obtain ⟨hseated, henough, hfew⟩ := Script.all_of_admitted h
    obtain ⟨t', h'⟩ := Script.admitted_of_all hseated henough hfew
    rw [h] at h'
    cases h'
    rfl
  moderator hseated := by
    obtain ⟨r, hr, hrest⟩ := Script.moderatorThen_of_not_seated hseated
    refine ⟨r, hr, fun least most => ?_⟩
    rw [Script.admitted_eq]
    exact hrest _
  least hseated henough := by
    obtain ⟨b, m, hb, hm, hrest⟩ := Script.moderatorThen_of_seated hseated
    obtain ⟨r, hr, hrest'⟩ := Script.boundThen_of_not_kept hm henough
    refine ⟨b, m, r, hb, hr, fun most => ?_⟩
    rw [Script.admitted_eq]
    exact (hrest _).trans (hrest' _)
  most hseated henough hfew := by
    obtain ⟨b, m, hb, hm, hrest⟩ := Script.moderatorThen_of_seated hseated
    obtain ⟨least, m', hleast, hm', hrest'⟩ := Script.boundThen_of_kept hm henough
    obtain ⟨r, hr, hrest''⟩ := Script.boundThen_of_not_kept hm' hfew
    refine ⟨b, m, least, m', hb, hleast, ?_⟩
    rw [Script.admitted_eq, hrest, hrest', hrest'']
    exact hr

end Dealer
