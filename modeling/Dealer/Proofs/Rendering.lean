-- Reading accepts exactly the grammar. Every document that is read was written in
-- the text that was read, and every text that writes a document is read as it.
import Dealer.Document.SyntaxError
import Dealer.Proofs.Tokens

namespace Dealer

open Grammar

/-! ## One step of each reader -/

section Steps

variable {cs r : List Char}

theorem readValue_nil (h : skipFiller cs = []) : (readValue cs).outcome = .error (.failed ()) := by
  rw [readValue, Reading.outcome_hoping]
  split
  · rfl
  · rename_i heq
    rw [h] at heq
    cases heq

theorem readValue_cons {c : Char} (h : skipFiller cs = c :: r) :
    (readValue cs).outcome =
      if c = '\x7b' then (readMembers r).outcome >>= fun p => .ok (.ofMembers p.1, p.2)
      else if c = '[' then (readItems r).outcome >>= fun p => .ok (.list p.1, p.2)
      else if c = '"' ∨ c = '\'' then (readText c r).outcome
      else (readWord (c :: r)).outcome := by
  rw [readValue, Reading.outcome_hoping]
  split
  · rename_i heq
    rw [h] at heq
    cases heq
  · rename_i heq
    rw [h] at heq
    cases heq
    split
    · exact Reading.outcome_andThen fun a rest hlt => rfl
    · split
      · exact Reading.outcome_andThen fun a rest hlt => rfl
      · split
        · cases readText c r <;> rfl
        · cases readWord (c :: r) <;> rfl

theorem readItems_close (h : skipFiller cs = ']' :: r) : (readItems cs).outcome = .ok ([], r) := by
  rw [readItems]
  split
  · rename_i heq
    rw [h] at heq
    cases heq
    rfl
  · rename_i hnot
    exact absurd h (hnot r)

/-- What is read of a list behind one of its items. -/
def readMoreItems (value : Document) (cs : List Char) :
    Except (Halt Unit) (List Document × List Char) :=
  match skipFiller cs with
  | ',' :: r => (readItems r).outcome >>= fun p => .ok (value :: p.1, p.2)
  | _ => (readMark ']' cs).outcome >>= fun p => .ok ([value], p.2)

theorem readMoreItems_comma {value : Document} (h : skipFiller cs = ',' :: r) :
    readMoreItems value cs = (readItems r).outcome >>= fun p => .ok (value :: p.1, p.2) := by
  unfold readMoreItems
  rw [h]
  rfl

theorem readMoreItems_close {value : Document} (h : ∀ r, skipFiller cs ≠ ',' :: r) :
    readMoreItems value cs = (readMark ']' cs).outcome >>= fun p => .ok ([value], p.2) := by
  unfold readMoreItems
  split
  · rename_i heq
    exact absurd heq (h _)
  · rfl

theorem readItems_item (h : ∀ r, skipFiller cs ≠ ']' :: r) :
    (readItems cs).outcome =
      (readValue cs).outcome >>= fun p => readMoreItems p.1 p.2 := by
  rw [readItems]
  split
  · rename_i heq
    exact absurd heq (h _)
  · refine Reading.outcome_andThen fun value rest hlt => ?_
    split
    · rename_i hcomma
      rw [readMoreItems_comma hcomma]
      exact Reading.outcome_andThen fun others left hlt => rfl
    · rename_i hnot
      rw [readMoreItems_close hnot]
      exact Reading.outcome_andThen fun mark left hlt => rfl

theorem readMembers_close (h : skipFiller cs = '\x7d' :: r) :
    (readMembers cs).outcome = .ok ([], r) := by
  rw [readMembers]
  split
  · rename_i heq
    rw [h] at heq
    cases heq
    rfl
  · rename_i hnot
    exact absurd h (hnot r)

/-- What is read of an object behind one of its members. -/
def readMoreMembers (member : String × Document) (cs : List Char) :
    Except (Halt Unit) (List (String × Document) × List Char) :=
  match skipFiller cs with
  | ',' :: r => (readMembers r).outcome >>= fun p => .ok (member :: p.1, p.2)
  | _ => (readMark '\x7d' cs).outcome >>= fun p => .ok ([member], p.2)

theorem readMoreMembers_comma {member : String × Document} (h : skipFiller cs = ',' :: r) :
    readMoreMembers member cs =
      (readMembers r).outcome >>= fun p => .ok (member :: p.1, p.2) := by
  unfold readMoreMembers
  rw [h]
  rfl

theorem readMoreMembers_close {member : String × Document} (h : ∀ r, skipFiller cs ≠ ',' :: r) :
    readMoreMembers member cs =
      (readMark '\x7d' cs).outcome >>= fun p => .ok ([member], p.2) := by
  unfold readMoreMembers
  split
  · rename_i heq
    exact absurd heq (h _)
  · rfl

theorem readMembers_member (h : ∀ r, skipFiller cs ≠ '\x7d' :: r) :
    (readMembers cs).outcome =
      (readKey (skipFiller cs)).outcome >>= fun key =>
      (readMark ':' key.2).outcome >>= fun colon =>
      (readValue colon.2).outcome >>= fun value => readMoreMembers (key.1, value.1) value.2 := by
  rw [readMembers]
  split
  · rename_i heq
    exact absurd heq (h _)
  · refine Reading.outcome_andThen fun key r₁ h₁ => ?_
    refine Reading.outcome_andThen fun colon r₂ h₂ => ?_
    refine Reading.outcome_andThen fun value r₃ h₃ => ?_
    split
    · rename_i hcomma
      rw [readMoreMembers_comma hcomma]
      exact Reading.outcome_andThen fun others left hlt => rfl
    · rename_i hnot
      rw [readMoreMembers_close hnot]
      exact Reading.outcome_andThen fun mark left hlt => rfl

end Steps

/-! ## What is read is written there -/

theorem length_lt_of_skipFiller {cs r : List Char} {c : Char} (h : skipFiller cs = c :: r) :
    r.length < cs.length := by
  have := length_skipFiller cs
  rw [h] at this
  exact this

/-- A key and the colon behind it, with the filler around them. -/
theorem key_and_colon {cs r₁ r₂ : List Char} {key : String}
    (hkey : (readKey (skipFiller cs)).outcome = .ok (key, r₁))
    (hcolon : (readMark ':' r₁).outcome = .ok ((), r₂)) :
    ∃ f k g, Filler False f ∧ MemberKey k key ∧ Filler False g ∧
      cs = f ++ (k ++ (g ++ ':' :: r₂)) := by
  have hlt : r₁.length < (skipFiller cs).length := Reading.length_of_outcome hkey
  obtain ⟨k, hk, hkcs⟩ := key_of_readKey hkey
  obtain ⟨g, hg, hr₁⟩ := (readMark_iff (by decide)).mp hcolon
  obtain ⟨f, hf, hcs⟩ := filler_of_skipFiller cs
  have hf : Filler False f := hf.mono fun hnil => by
    rw [hnil] at hlt
    exact absurd hlt (Nat.not_lt_zero _)
  refine ⟨f, k, g, hf, hk, hg, ?_⟩
  rw [hcs, hkcs, hr₁]

/-- Members that do not end at once begin with a key and a colon. -/
theorem key_of_readMembers {cs rest : List Char} {ds : List (String × Document)}
    (hclose : ∀ r, skipFiller cs ≠ '\x7d' :: r) (h : (readMembers cs).outcome = .ok (ds, rest)) :
    ∃ f k g r key, Filler False f ∧ MemberKey k key ∧ Filler False g ∧
      cs = f ++ (k ++ (g ++ ':' :: r)) ∧
      ((readValue r).outcome >>= fun value => readMoreMembers (key, value.1) value.2) =
        .ok (ds, rest) := by
  rw [readMembers_member hclose] at h
  obtain ⟨⟨key, r₁⟩, hkey, h⟩ := bind_eq_ok.mp h
  obtain ⟨⟨_, r₂⟩, hcolon, h⟩ := bind_eq_ok.mp h
  obtain ⟨f, k, g, hf, hk, hg, hcs⟩ := key_and_colon hkey hcolon
  exact ⟨f, k, g, r₂, key, hf, hk, hg, hcs, h⟩

mutual

theorem value_of_readValue {cs rest : List Char} {d : Document}
    (h : (readValue cs).outcome = .ok (d, rest)) :
    ∃ f v, Filler False f ∧ Value v d ∧ cs = f ++ (v ++ rest) := by
  cases hs : skipFiller cs with
  | nil =>
    rw [readValue_nil hs] at h
    cases h
  | cons c r =>
    have hlt := length_lt_of_skipFiller hs
    obtain ⟨f, hf, hcs⟩ := filler_of_skipFiller_eq_cons hs
    rw [readValue_cons hs] at h
    split at h
    · rename_i hc
      obtain ⟨⟨members, left⟩, hmembers, heq⟩ := bind_eq_ok.mp h
      cases heq
      obtain ⟨body, hbody, hr⟩ := members_of_readMembers hmembers
      refine ⟨f, _, hf, .object hbody (ByName.leftBy_iff.mpr rfl), ?_⟩
      rw [hcs, hc, hr, List.cons_append, List.append_assoc, List.singleton_append]
    · split at h
      · rename_i hc
        obtain ⟨⟨items, left⟩, hitems, heq⟩ := bind_eq_ok.mp h
        cases heq
        obtain ⟨body, hbody, hr⟩ := items_of_readItems hitems
        refine ⟨f, _, hf, .list hbody, ?_⟩
        rw [hcs, hc, hr, List.cons_append, List.append_assoc, List.singleton_append]
      · split at h
        · rename_i hquote
          obtain ⟨body, text, hbody, hr, rfl⟩ := (readText_iff hquote).mp h
          refine ⟨f, _, hf, .text hquote hbody, ?_⟩
          rw [hcs, hr, List.cons_append, List.append_assoc, List.singleton_append]
        · obtain ⟨v, hv, hr⟩ := value_of_readWord h
          exact ⟨f, v, hf, hv, by rw [hcs, hr]⟩
termination_by (cs.length, 0)

theorem items_of_readItems {cs rest : List Char} {ds : List Document}
    (h : (readItems cs).outcome = .ok (ds, rest)) :
    ∃ body, Items body ds ∧ cs = body ++ ']' :: rest := by
  by_cases hclose : ∃ r, skipFiller cs = ']' :: r
  · obtain ⟨r, hr⟩ := hclose
    rw [readItems_close hr] at h
    cases h
    obtain ⟨f, hf, hcs⟩ := filler_of_skipFiller_eq_cons hr
    exact ⟨f, .none hf, hcs⟩
  · rw [readItems_item fun r hr => hclose ⟨r, hr⟩] at h
    obtain ⟨⟨d, r₁⟩, hvalue, hmore⟩ := bind_eq_ok.mp h
    have h₁ := Reading.length_of_outcome hvalue
    obtain ⟨f, v, hf, hv, hcs⟩ := value_of_readValue hvalue
    by_cases hcomma : ∃ r, skipFiller r₁ = ',' :: r
    · obtain ⟨r₂, hr₂⟩ := hcomma
      have h₂ := length_lt_of_skipFiller hr₂
      rw [readMoreItems_comma hr₂] at hmore
      obtain ⟨⟨others, left⟩, hothers, heq⟩ := bind_eq_ok.mp hmore
      cases heq
      obtain ⟨g, hg, hr₁⟩ := filler_of_skipFiller_eq_cons hr₂
      obtain ⟨body, hbody, hr⟩ := items_of_readItems hothers
      refine ⟨_, .more hf hv hg hbody, ?_⟩
      simp only [hcs, hr₁, hr, List.append_assoc, List.cons_append]
    · rw [readMoreItems_close fun r hr => hcomma ⟨r, hr⟩] at hmore
      obtain ⟨⟨_, left⟩, hmark, heq⟩ := bind_eq_ok.mp hmore
      cases heq
      obtain ⟨g, hg, hr₁⟩ := (readMark_iff (by decide)).mp hmark
      refine ⟨_, .last hf hv hg, ?_⟩
      simp only [hcs, hr₁, List.append_assoc]
termination_by (cs.length, 1)

theorem members_of_readMembers {cs rest : List Char} {ds : List (String × Document)}
    (h : (readMembers cs).outcome = .ok (ds, rest)) :
    ∃ body, Members body ds ∧ cs = body ++ '\x7d' :: rest := by
  by_cases hclose : ∃ r, skipFiller cs = '\x7d' :: r
  · obtain ⟨r, hr⟩ := hclose
    rw [readMembers_close hr] at h
    cases h
    obtain ⟨f, hf, hcs⟩ := filler_of_skipFiller_eq_cons hr
    exact ⟨f, .none hf, hcs⟩
  · obtain ⟨f, k, g, r₁, key, hf, hk, hg, hcs, h⟩ :=
      key_of_readMembers (fun r hr => hclose ⟨r, hr⟩) h
    have h₁ := congrArg List.length hcs
    simp only [List.length_append, List.length_cons] at h₁
    obtain ⟨⟨d, r₂⟩, hvalue, hmore⟩ := bind_eq_ok.mp h
    have h₂ : r₂.length < r₁.length := Reading.length_of_outcome hvalue
    obtain ⟨i, v, hi, hv, (hr₁ : r₁ = i ++ (v ++ r₂))⟩ := value_of_readValue hvalue
    by_cases hcomma : ∃ r, skipFiller r₂ = ',' :: r
    · obtain ⟨r₃, hr₃⟩ := hcomma
      have h₃ := length_lt_of_skipFiller hr₃
      rw [readMoreMembers_comma hr₃] at hmore
      obtain ⟨⟨others, left⟩, hothers, heq⟩ := bind_eq_ok.mp hmore
      cases heq
      obtain ⟨j, hj, hr₂⟩ := filler_of_skipFiller_eq_cons hr₃
      obtain ⟨body, hbody, hr⟩ := members_of_readMembers hothers
      refine ⟨_, .more hf hk hg hi hv hj hbody, ?_⟩
      simp only [hcs, hr₁, hr₂, hr, List.append_assoc, List.cons_append]
    · rw [readMoreMembers_close fun r hr => hcomma ⟨r, hr⟩] at hmore
      obtain ⟨⟨_, left⟩, hmark, heq⟩ := bind_eq_ok.mp hmore
      cases heq
      obtain ⟨j, hj, hr₂⟩ := (readMark_iff (by decide)).mp hmark
      refine ⟨_, .last hf hk hg hi hv hj, ?_⟩
      simp only [hcs, hr₁, hr₂, List.append_assoc, List.cons_append]
termination_by (cs.length, 1)

end

/-! ## What is written is read -/

/-- A token begins here: no filler does, and no bracket or comma. -/
def Begins (cs : List Char) : Prop :=
  ∃ c r, cs = c :: r ∧ isBlank c = false ∧ c ∉ ['/', ',', ']', '\x7d']

theorem Begins.append {cs : List Char} (h : Begins cs) (rest : List Char) :
    Begins (cs ++ rest) := by
  obtain ⟨c, r, rfl, hc⟩ := h
  exact ⟨c, r ++ rest, rfl, hc⟩

theorem Begins.plain {cs : List Char} (h : Begins cs) : Plain cs := by
  obtain ⟨c, r, rfl, hblank, hc⟩ := h
  refine Plain.cons ⟨hblank, ?_⟩ r
  rintro rfl
  exact hc (List.mem_cons_self ..)

theorem Begins.ne {cs : List Char} (h : Begins cs) {c : Char} (hc : c ∈ ['/', ',', ']', '\x7d'])
    (r : List Char) : cs ≠ c :: r := by
  obtain ⟨d, r', rfl, _, hd⟩ := h
  intro heq
  rw [(List.cons.inj heq).1] at hd
  exact hd hc

theorem begins_of_not_separates {c : Char} (h : ¬Separates c) (r : List Char) :
    Begins (c :: r) := by
  refine ⟨c, r, rfl, ?_, fun hc => h (Or.inr ?_)⟩
  · cases hb : isBlank c with
    | false => rfl
    | true => exact absurd (Or.inl hb) h
  · simp only [List.mem_cons, List.not_mem_nil, or_false] at hc
    rcases hc with rfl | rfl | rfl | rfl <;> decide

theorem Grammar.MemberKey.begins {k : List Char} {key : String} (h : MemberKey k key) :
    Begins k := by
  cases h with
  | @quoted quote cs text hq _ =>
    refine ⟨quote, _, rfl, ?_⟩
    rcases hq with rfl | rfl <;> decide
  | @name c cs hc _ =>
    refine begins_of_not_separates (fun hsep => ?_) cs
    rw [startsName_eq_false hsep] at hc
    cases hc

theorem not_separates_of_startsNumber {c : Char} (h : startsNumber c = true) : ¬Separates c := by
  intro hsep
  have hgoes : continuesNumber c = true := by
    unfold startsNumber at h
    unfold continuesNumber isAsciiAlphanumeric
    rcases Bool.or_eq_true_iff.mp h with hdigit | hpoint
    · rw [hdigit]
      rfl
    · rw [hpoint]
      simp only [Bool.or_true, Bool.true_or]
  rw [continuesNumber_eq_false hsep] at hgoes
  cases hgoes

theorem begins_of_number {sign run : List Char} {negative : Bool} {c : Char}
    (hsign : Sign sign negative) (hc : startsNumber c = true) : Begins (sign ++ c :: run) := by
  cases hsign with
  | none => exact begins_of_not_separates (not_separates_of_startsNumber hc) _
  | plus => exact ⟨_, _, rfl, by decide⟩
  | minus => exact ⟨_, _, rfl, by decide⟩

theorem Grammar.Value.begins {v : List Char} {d : Document} (h : Value v d) : Begins v := by
  cases h with
  | null => exact ⟨_, _, rfl, by decide⟩
  | true => exact ⟨_, _, rfl, by decide⟩
  | false => exact ⟨_, _, rfl, by decide⟩
  | number hsign hc _ _ => exact begins_of_number hsign hc
  | @text quote cs text hq _ =>
    refine ⟨quote, _, rfl, ?_⟩
    rcases hq with rfl | rfl <;> decide
  | list _ => exact ⟨_, _, rfl, by decide⟩
  | object _ _ => exact ⟨_, _, rfl, by decide⟩

theorem readValue_word {cs r : List Char} {c : Char} (hs : skipFiller cs = c :: r)
    (hc : c ∉ ['\x7b', '[', '"', '\'']) : (readValue cs).outcome = (readWord (c :: r)).outcome := by
  simp only [List.mem_cons, List.not_mem_nil, or_false, not_or] at hc
  obtain ⟨hbrace, hbracket, hquote⟩ := hc
  rw [readValue_cons hs, if_neg hbrace, if_neg hbracket, if_neg (not_or.mpr hquote)]

/-- A sign or a digit or point begins nothing but a number. -/
theorem readValue_number {cs sign run rest : List Char} {negative : Bool} {c : Char} {d : Document}
    (hs : skipFiller cs = sign ++ c :: (run ++ rest)) (hsign : Sign sign negative)
    (hc : startsNumber c = true) (hrun : ∀ x ∈ run, continuesNumber x = true)
    (hvalue : numberValue? negative (c :: run) = .ok (some d))
    (hrest : Stops continuesNumber rest) :
    (readValue cs).outcome = .ok (d, rest) := by
  have hnumber : (readNumber (sign ++ c :: (run ++ rest))).outcome = .ok (d, rest) :=
    readNumber_iff.mpr ⟨sign, negative, c, run, hsign, rfl, hc, hrun, hrest, hvalue⟩
  have hother (x : Char) (hx : startsNumber x = false) : c ≠ x := by
    rintro rfl
    rw [hx] at hc
    cases hc
  cases hsign with
  | none =>
    have hvalues : c ∉ ['\x7b', '[', '"', '\''] := by
      simp only [List.mem_cons, List.not_mem_nil, or_false, not_or]
      exact ⟨hother _ (by decide), hother _ (by decide), hother _ (by decide), hother _ (by decide)⟩
    have hwords : c ∉ ['t', 'f', 'n'] := by
      simp only [List.mem_cons, List.not_mem_nil, or_false, not_or]
      exact ⟨hother _ (by decide), hother _ (by decide), hother _ (by decide)⟩
    rw [readValue_word hs hvalues, readWord_of_ne hwords]
    exact hnumber
  | plus =>
    rw [readValue_word hs (by decide), readWord_of_ne (by decide)]
    exact hnumber
  | minus =>
    rw [readValue_word hs (by decide), readWord_of_ne (by decide)]
    exact hnumber

/-- Behind a value no number goes on, and the closing bracket or comma is what comes next. -/
theorem behind_filler {g : List Char} (hg : Filler False g) {c : Char}
    (hc : c ∈ [':', ',', ']', '\x7d']) (rest : List Char) :
    skipFiller (g ++ c :: rest) = c :: rest ∧ Stops continuesNumber (g ++ c :: rest) ∧
      Stops continuesName (g ++ c :: rest) := by
  have hplain : isBlank c = false ∧ c ≠ '/' ∧ Separates c := by
    simp only [List.mem_cons, List.not_mem_nil, or_false] at hc
    rcases hc with rfl | rfl | rfl | rfl <;> decide
  obtain ⟨hblank, hslash, hsep⟩ := hplain
  refine ⟨skipFiller_append hg (Plain.cons ⟨hblank, hslash⟩ rest) False.elim, ?_, ?_⟩
  · exact hg.stops continuesNumber_eq_false (Stops.cons (continuesNumber_eq_false hsep) rest)
  · exact hg.stops continuesName_eq_false (Stops.cons (continuesName_eq_false hsep) rest)

/-- The key and the colon of a member are read as they are written, whatever comes behind them. -/
theorem readMembers_of_key {f k g : List Char} {key : String} (hf : Filler False f)
    (hk : MemberKey k key) (hg : Filler False g) (rest : List Char) :
    (readMembers (f ++ (k ++ (g ++ ':' :: rest)))).outcome =
      (readValue rest).outcome >>= fun value => readMoreMembers (key, value.1) value.2 := by
  obtain ⟨_, _, hname⟩ := behind_filler hg (c := ':') (by decide) rest
  have hkey := hk.begins.append (g ++ ':' :: rest)
  have hs := skipFiller_append hf hkey.plain False.elim
  rw [readMembers_member fun r hr => hkey.ne (by decide) r (hs.symm.trans hr), hs]
  rw [readKey_of_key hk hname, ok_bind]
  rw [(readMark_iff (by decide)).mpr ⟨g, hg, rfl⟩, ok_bind]

/-- What ends the reading of an item ends that of the list. -/
theorem readItems_of_error {f cs : List Char} {halt : Halt Unit} (hf : Filler False f)
    (hcs : Begins cs) (h : (readValue (f ++ cs)).outcome = .error halt) :
    (readItems (f ++ cs)).outcome = .error halt := by
  have hs := skipFiller_append hf hcs.plain False.elim
  rw [readItems_item fun r hr => hcs.ne (by decide) r (hs.symm.trans hr), h, error_bind]

mutual

theorem readValue_of_value {v cs rest : List Char} {d : Document} (h : Value v d)
    (hs : skipFiller cs = v ++ rest) (hrest : Stops continuesNumber rest) :
    (readValue cs).outcome = .ok (d, rest) := by
  cases h with
  | null => exact readValue_word hs (by decide)
  | true => exact readValue_word hs (by decide)
  | false => exact readValue_word hs (by decide)
  | number hsign hc hrun hvalue =>
    rw [List.append_assoc, List.cons_append] at hs
    exact readValue_number hs hsign hc hrun hvalue hrest
  | @text quote body text hq hbody =>
    rw [List.cons_append, List.append_assoc, List.singleton_append] at hs
    have hbrackets : quote ≠ '\x7b' ∧ quote ≠ '[' := by
      rcases hq with rfl | rfl <;> decide
    rw [readValue_cons hs, if_neg hbrackets.1, if_neg hbrackets.2,
      if_pos (show quote = '"' ∨ quote = '\'' from hq)]
    exact (readText_iff hq).mpr ⟨body, text, hbody, rfl, rfl⟩
  | list hitems =>
    rw [List.cons_append, List.append_assoc, List.singleton_append] at hs
    rw [readValue_cons hs, if_neg (by decide), if_pos rfl, readItems_of_items hitems rest]
    rfl
  | object hmembers hentries =>
    rw [List.cons_append, List.append_assoc, List.singleton_append] at hs
    rw [readValue_cons hs, if_pos rfl, readMembers_of_members hmembers rest,
      ByName.leftBy_iff.mp hentries]
    rfl
termination_by 2 * v.length

theorem readItems_of_items {body : List Char} {ds : List Document} (h : Items body ds)
    (rest : List Char) : (readItems (body ++ ']' :: rest)).outcome = .ok (ds, rest) := by
  cases h with
  | none hf => exact readItems_close (behind_filler hf (by decide) rest).1
  | @last f v g d hf hv hg =>
    obtain ⟨hclose, hstops, _⟩ := behind_filler hg (c := ']') (by decide) rest
    have hbegins := hv.begins.append (g ++ ']' :: rest)
    have hs := skipFiller_append hf hbegins.plain False.elim
    rw [show f ++ (v ++ g) ++ ']' :: rest = f ++ (v ++ (g ++ ']' :: rest)) by
      simp only [List.append_assoc]]
    rw [readItems_item fun r hr => hbegins.ne (by decide) r (hs.symm.trans hr)]
    rw [readValue_of_value hv hs hstops, ok_bind]
    rw [readMoreItems_close fun r hr => by rw [hclose] at hr; cases hr]
    rw [(readMark_iff (by decide)).mpr ⟨g, hg, rfl⟩, ok_bind]
  | @more f v g others d ds hf hv hg hothers =>
    obtain ⟨hcomma, hstops, _⟩ := behind_filler hg (c := ',') (by decide) (others ++ ']' :: rest)
    have hbegins := hv.begins.append (g ++ ',' :: (others ++ ']' :: rest))
    have hs := skipFiller_append hf hbegins.plain False.elim
    rw [show f ++ (v ++ (g ++ ',' :: others)) ++ ']' :: rest =
        f ++ (v ++ (g ++ ',' :: (others ++ ']' :: rest))) by
      simp only [List.append_assoc, List.cons_append]]
    rw [readItems_item fun r hr => hbegins.ne (by decide) r (hs.symm.trans hr)]
    rw [readValue_of_value hv hs hstops, ok_bind, readMoreItems_comma hcomma]
    rw [readItems_of_items hothers rest, ok_bind]
termination_by 2 * body.length + 1

theorem readMembers_of_members {body : List Char} {ds : List (String × Document)}
    (h : Members body ds) (rest : List Char) :
    (readMembers (body ++ '\x7d' :: rest)).outcome = .ok (ds, rest) := by
  cases h with
  | none hf => exact readMembers_close (behind_filler hf (by decide) rest).1
  | @last f k g i v j key d hf hk hg hi hv hj =>
    obtain ⟨hclose, hstops, _⟩ := behind_filler hj (c := '\x7d') (by decide) rest
    have hvalue := hv.begins.append (j ++ '\x7d' :: rest)
    have hsv := skipFiller_append hi hvalue.plain False.elim
    rw [show f ++ (k ++ (g ++ ':' :: (i ++ (v ++ j)))) ++ '\x7d' :: rest =
        f ++ (k ++ (g ++ ':' :: (i ++ (v ++ (j ++ '\x7d' :: rest))))) by
      simp only [List.append_assoc, List.cons_append]]
    rw [readMembers_of_key hf hk hg, readValue_of_value hv hsv hstops, ok_bind]
    rw [readMoreMembers_close fun r hr => by rw [hclose] at hr; cases hr]
    rw [(readMark_iff (by decide)).mpr ⟨j, hj, rfl⟩, ok_bind]
  | @more f k g i v j others key d ds hf hk hg hi hv hj hothers =>
    obtain ⟨hcomma, hstops, _⟩ := behind_filler hj (c := ',') (by decide) (others ++ '\x7d' :: rest)
    have hvalue := hv.begins.append (j ++ ',' :: (others ++ '\x7d' :: rest))
    have hsv := skipFiller_append hi hvalue.plain False.elim
    rw [show f ++ (k ++ (g ++ ':' :: (i ++ (v ++ (j ++ ',' :: others))))) ++ '\x7d' :: rest =
        f ++ (k ++ (g ++ ':' :: (i ++ (v ++ (j ++ ',' :: (others ++ '\x7d' :: rest)))))) by
      simp only [List.append_assoc, List.cons_append]]
    rw [readMembers_of_key hf hk hg, readValue_of_value hv hsv hstops, ok_bind]
    rw [readMoreMembers_comma hcomma, readMembers_of_members hothers rest, ok_bind]
termination_by 2 * body.length + 1

end

/-! ## Whole texts -/

theorem readDocument_iff {cs : List Char} {d : Document} :
    readDocument cs = .ok d ↔ Rendering cs d := by
  constructor
  · intro h
    unfold readDocument at h
    split at h
    · cases h
    · rename_i value rest hlt hvalue
      have hresult : (readValue cs).outcome = .ok (value, rest) := by
        rw [hvalue]
        rfl
      obtain ⟨f, v, hf, hv, rfl⟩ := value_of_readValue hresult
      split at h
      · rename_i hend
        cases h
        exact .value hf hv (filler_of_skipFiller_eq_nil hend)
      · cases h
  · rintro ⟨hf, hv, hg⟩
    rename_i f v g
    have hs := skipFiller_append hf (hv.begins.append g).plain False.elim
    have hstops : Stops continuesNumber g := by
      have hnil : Stops continuesNumber [] := fun c hc => by cases hc
      have := hg.stops continuesNumber_eq_false hnil
      rwa [List.append_nil] at this
    have hend : skipFiller g = [] := by
      have := skipFiller_append hg Plain.nil fun _ => rfl
      rwa [List.append_nil] at this
    have hvalue := readValue_of_value hv hs hstops
    unfold readDocument
    split
    · rename_i hfailed
      rw [hfailed] at hvalue
      cases hvalue
    · rename_i value rest hlt hdone
      rw [hdone] at hvalue
      cases hvalue
      rw [hend]

/-- A text whose brackets are not nested too deep is read as a document exactly when it writes that
document in the grammar of script texts. -/
theorem a_text_is_read_as_what_it_writes (text : String) (d : Document)
    (h : nestsWithin maxNesting .code 0 text.toList = true) :
    Document.read text = .ok d ↔ Rendering text.toList d := by
  rw [← readDocument_iff]
  unfold Document.read
  rw [if_pos h]
  cases readDocument text.toList with
  | ok value =>
    constructor
    · intro heq
      cases heq
      rfl
    · intro heq
      cases heq
      rfl
  | error e =>
    constructor
    · intro heq
      cases heq
    · intro heq
      cases heq

/-- Of two members with one key the later counts, the comma behind it changes nothing, and a
comment may end the text. -/
theorem a_later_member_counts :
    nestsWithin maxNesting .code 0 "\x7b_:null, '_':[],\x7d//".toList = true ∧
      Document.read "\x7b_:null, '_':[],\x7d//" = .ok (.object [("_", .list [])]) := by
  have shallow : nestsWithin maxNesting .code 0 "\x7b_:null, '_':[],\x7d//".toList = true := by
    decide +kernel
  have name : MemberKey ['_'] (String.ofList ['_']) := by
    refine .name ?_ fun x hx => by cases hx
    unfold startsName
    rw [decide_eq_true rfl, Bool.or_true, Bool.true_or]
  have quoted : MemberKey ['\'', '_', '\''] (String.ofList ['_']) :=
    .quoted (Or.inr rfl) (.plain (by decide) .nil)
  have space : Filler False [' '] := .blank (by decide) .none
  have last : Members [' ', '\'', '_', '\'', ':', '[', ']', ',']
      [(String.ofList ['_'], .list [])] :=
    .more space quoted .none .none (.list (.none .none)) .none (.none .none)
  have members : Members
      ['_', ':', 'n', 'u', 'l', 'l', ',', ' ', '\'', '_', '\'', ':', '[', ']', ',']
      [(String.ofList ['_'], .null), (String.ofList ['_'], .list [])] :=
    .more .none name .none .none .null .none last
  have entries : ByName.LeftBy
      [(String.ofList ['_'], Document.null), (String.ofList ['_'], .list [])] [("_", .list [])] :=
    ByName.leftBy_iff.mpr rfl
  have comment : Filler True ['/', '/'] :=
    @Filler.line True [] [] (fun c hc => by cases hc) (.text trivial) .none
  have written : Rendering "\x7b_:null, '_':[],\x7d//".toList (.object [("_", .list [])]) :=
    .value .none (.object members entries) comment
  exact ⟨shallow, (a_text_is_read_as_what_it_writes _ _ shallow).mpr written⟩

end Dealer
