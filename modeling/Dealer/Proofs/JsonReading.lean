-- JSON texts are script texts, up to one thing. A text that pairs no escapes is read as the
-- document that it denotes. Of a pair each escape is read alone, and half a pair is no
-- character, so a text with a pair anywhere is refused.
import Dealer.Proofs.Bodies
import Dealer.Proofs.Json

namespace Dealer

open Grammar

namespace Json

/-! ## Blanks -/

theorem Space.isBlank {cs : List Char} (h : Space cs) : ∀ c ∈ cs, isBlank c = true := by
  intro c hc
  have hmem := h c hc
  simp only [List.mem_cons, List.not_mem_nil, or_false] at hmem
  rcases hmem with rfl | rfl | rfl | rfl <;> decide

theorem Space.filler {cs : List Char} (h : Space cs) (last : Prop) : Filler last cs := by
  have hblank := h.isBlank
  clear h
  induction cs with
  | nil => exact .none
  | cons c cs ih =>
    have hrest := ih fun x hx => hblank x (List.mem_cons_of_mem _ hx)
    exact .blank (hblank c (List.mem_cons_self ..)) hrest

/-- Blanks are passed over up to the token behind them. -/
theorem Space.skip {f cs : List Char} (h : Space f) (hcs : Begins cs) :
    skipFiller (f ++ cs) = cs :=
  skipFiller_append (h.filler False) hcs.plain False.elim

theorem Space.passed {cs : List Char} (h : Space cs) (rest : List Char) :
    Passed (cs ++ rest) rest :=
  fun _ _ => nestsWithin_run cs (fun c hc => not_skimmed_of_isBlank (h.isBlank c hc)) rest

/-! ## Texts in quotes -/

theorem FourDigits.eq {digits : List Char} {n : Nat} (h : FourDigits digits n) :
    ∃ a b c d, digits = [a, b, c, d] ∧ hexNumber? [a, b, c, d] = some n := by
  obtain ⟨hlength, hn⟩ := h
  obtain ⟨_, hvalue⟩ := numeral_iff_hexNumber?.mp hn
  match digits, hlength with
  | [a, b, c, d], _ => exact ⟨a, b, c, d, rfl, hvalue⟩

theorem fourDigits_of_hexNumber? {digits : List Char} {n : Nat} (hlength : digits.length = 4)
    (h : hexNumber? digits = some n) : FourDigits digits n :=
  ⟨hlength, numeral_iff_hexNumber?.mpr ⟨fun hnil => (by rw [hnil] at hlength; cases hlength), h⟩⟩

theorem escaped_of_fourDigits {digits : List Char} {ch : Char}
    (h : FourDigits digits ch.toNat) : Escaped ('u' :: digits) [ch] := by
  obtain ⟨a, b, c, d, rfl, hvalue⟩ := h.eq
  have hch : hexNumber? [a, b, c, d] >>= charAt? = some ch := by
    rw [hvalue]
    exact charAt?_eq_some.mpr rfl
  obtain ⟨i, j, k, l, ha, hb, hc, hd, hsum⟩ := fourDigits_iff.mp hch
  exact .code ha hb hc hd hsum

theorem escaped_of_mem {c ch : Char} (h : (c, ch) ∈ Json.escapeNames) : Escaped [c] [ch] := by
  simp only [Json.escapeNames, List.mem_cons, Prod.mk.injEq, List.not_mem_nil, or_false] at h
  rcases h with ⟨rfl, rfl⟩ | ⟨rfl, rfl⟩ | ⟨rfl, rfl⟩ | ⟨rfl, rfl⟩ | ⟨rfl, rfl⟩ | ⟨rfl, rfl⟩ |
    ⟨rfl, rfl⟩ | ⟨rfl, rfl⟩
  · exact .self (by decide) (by decide) (by decide)
  · exact .self (by decide) (by decide) (by decide)
  · exact .self (by decide) (by decide) (by decide)
  all_goals exact .named (by decide)

theorem plain_of_unescaped {c : Char} (hc : 0x20 ≤ c.toNat) (h : c ∉ ['"', '\\']) :
    c ∉ ['"', '\\', '\n', '\r'] := by
  simp only [List.mem_cons, List.not_mem_nil, or_false, not_or] at h ⊢
  refine ⟨h.1, h.2, ?_, ?_⟩
  · rintro rfl
    revert hc
    decide
  · rintro rfl
    revert hc
    decide

/-- A text without pairs is a text in quotes of a script. -/
theorem Spelled.quoted {cs text : List Char} {paired : Bool} (h : Spelled cs text paired)
    (hp : paired = false) : Quoted '"' cs text := by
  induction h with
  | nil => exact .nil
  | plain hc h _ ih => exact .plain (plain_of_unescaped hc h) (ih hp)
  | named h _ ih => exact .escape (escaped_of_mem h) (ih hp)
  | code h _ ih => exact .escape (escaped_of_fourDigits h) (ih hp)
  | pair => cases hp

theorem Spelled.memberKey {cs text : List Char} {paired : Bool} (h : Spelled cs text paired)
    (hp : paired = false) : MemberKey ('"' :: (cs ++ ['"'])) (String.ofList text) :=
  .quoted (Or.inl rfl) (h.quoted hp)

/-- The first half of a pair is no character. -/
theorem read_surrogate {digits : List Char} {i : Nat} (hi : i < 0x400)
    (h : FourDigits digits (0xd800 + i)) (rest : List Char) :
    ∃ r, Escape.read ('u' :: (digits ++ rest)) = .broken r := by
  obtain ⟨a, b, c, d, rfl, hvalue⟩ := h.eq
  have hnone : hexNumber? [a, b, c, d] >>= charAt? = none := by
    rw [hvalue]
    cases hch : charAt? (0xd800 + i) with
    | none => exact hch
    | some ch =>
      have hcode := charAt?_eq_some.mp hch
      have hvalid : ch.toNat < 0xd800 ∨ 0xdfff < ch.toNat ∧ ch.toNat < 0x110000 := ch.valid
      omega
  simp only [List.cons_append, List.nil_append]
  rw [Escape.read, hnone]
  exact ⟨_, rfl⟩

/-- No text begins with a bare line feed. -/
theorem Spelled.ne_feed {cs text : List Char} {paired : Bool} (h : Spelled cs text paired)
    (rest r : List Char) : cs ++ '"' :: rest ≠ '\n' :: r := by
  intro heq
  cases h with
  | nil => cases (List.cons.inj heq).1
  | plain hc _ _ =>
    rw [(List.cons.inj heq).1] at hc
    revert hc
    decide
  | named | code | pair => cases (List.cons.inj heq).1

/-- What breaks off behind an escape breaks off with it. -/
theorem broken_of_escaped {e out cs : List Char} (h : Escaped e out) (hfeed : ∀ r, cs ≠ '\n' :: r)
    (hcs : ∃ r, Quotation.read '"' cs = .broken r) :
    ∃ r, Quotation.read '"' ('\\' :: (e ++ cs)) = .broken r := by
  obtain ⟨r, hr⟩ := hcs
  rw [Quotation.read_escape (Or.inl rfl) (Escape.read_of_escaped h hfeed), hr]
  exact ⟨r, rfl⟩

/-- A text with a pair breaks off in the first of them. -/
theorem Spelled.broken {cs text : List Char} {paired : Bool} (h : Spelled cs text paired)
    (hp : paired = true) (rest : List Char) :
    ∃ r, Quotation.read '"' (cs ++ '"' :: rest) = .broken r := by
  induction h with
  | nil => cases hp
  | plain hc h _ ih =>
    obtain ⟨r, hr⟩ := ih hp
    rw [List.cons_append, Quotation.read_plain (plain_of_unescaped hc h), hr]
    exact ⟨r, rfl⟩
  | @named c _ _ _ _ h hcs ih =>
    exact broken_of_escaped (e := [c]) (escaped_of_mem h) (hcs.ne_feed rest) (ih hp)
  | code h hcs ih =>
    rw [List.cons_append, List.cons_append, List.append_assoc]
    exact broken_of_escaped (escaped_of_fourDigits h) (hcs.ne_feed rest) (ih hp)
  | @pair ch high low cs text i j paired hi _ hhigh _ _ _ _ =>
    obtain ⟨r, hr⟩ := read_surrogate hi hhigh ('\\' :: 'u' :: (low ++ cs) ++ '"' :: rest)
    refine ⟨r, ?_⟩
    rw [List.cons_append, List.cons_append, List.append_assoc, Quotation.read, if_neg (by decide),
      if_pos rfl]
    split
    all_goals
      rename_i heq
      rw [hr] at heq
      cases heq
    rfl

/-- The skimmer sees digits as any other characters of a text. -/
theorem nestsWithin_digits {limit depth n : Nat} {digits : List Char}
    (h : Numeral 16 digits n) (rest : List Char) :
    nestsWithin limit (.quoted '"') depth (digits ++ rest) =
      nestsWithin limit (.quoted '"') depth rest := by
  have hdigits := h.digit_of_mem
  clear h
  induction digits with
  | nil => rfl
  | cons c digits ih =>
    obtain ⟨v, hv⟩ := hdigits c (List.mem_cons_self ..)
    have hc : c ≠ '"' ∧ c ≠ '\\' :=
      ⟨ne_of_hexValue? hv (by decide), ne_of_hexValue? hv (by decide)⟩
    rw [List.cons_append, nestsWithin_quoted hc]
    exact ih fun x hx => hdigits x (List.mem_cons_of_mem _ hx)

theorem nestsWithin_code {limit depth n : Nat} {digits : List Char} (h : FourDigits digits n)
    (rest : List Char) :
    nestsWithin limit (.quoted '"') depth ('\\' :: 'u' :: (digits ++ rest)) =
      nestsWithin limit (.quoted '"') depth rest := by
  rw [nestsWithin, if_pos rfl, nestsWithin, nestsWithin_digits h.2]

/-- The skimmer leaves a text where the quote closes it, with pairs as without. -/
theorem Spelled.passed {cs text : List Char} {paired : Bool} (h : Spelled cs text paired)
    (rest : List Char) : Passed ('"' :: (cs ++ '"' :: rest)) rest := by
  intro limit depth
  rw [nestsWithin_quote (Or.inl rfl)]
  induction h with
  | nil =>
    rw [List.nil_append, nestsWithin, if_neg (by decide), if_pos rfl]
  | plain _ h _ ih =>
    simp only [List.mem_cons, List.not_mem_nil, or_false, not_or] at h
    rw [List.cons_append, nestsWithin_quoted h, ih]
  | named _ _ ih =>
    rw [List.cons_append, List.cons_append, nestsWithin, if_pos rfl, nestsWithin, ih]
  | code h _ ih =>
    rw [List.cons_append, List.cons_append, List.append_assoc, nestsWithin_code h, ih]
  | pair _ _ hhigh hlow _ _ ih =>
    simp only [List.cons_append, List.append_assoc]
    rw [nestsWithin_code hhigh, nestsWithin_code hlow, ih]

/-! ## Numbers -/

theorem NumberWritten.literal {cs : List Char} {negative : Bool} {d : Decimal}
    (h : NumberWritten cs negative d) :
    ∃ sign token, Sign sign negative ∧ cs = sign ++ token ∧ DecimalLiteral token d := by
  obtain ⟨hsign, _, _, hfraction, hn, he⟩ := h
  refine ⟨_, _, hsign, rfl, ?_⟩
  cases hfraction with
  | none =>
    rw [List.append_nil] at hn
    exact .mk (.whole hn) he
  | some _ =>
    have := DecimalLiteral.mk (.point hn) he
    rwa [List.append_assoc] at this

/-- A decimal literal writes a document with its double. -/
theorem denotes_of_decimalLiteral {token : List Char} {d : Decimal} (negative : Bool)
    (h : DecimalLiteral token d) (hd : d.double.isFinite = true) :
    ∃ doc, Literal negative token doc ∧ Denotes (.number negative d) doc := by
  by_cases hwhole : ∃ n, Whole token n
  · obtain ⟨n, hn⟩ := hwhole
    have heq : some d = some ⟨n, 0⟩ :=
      (decimalLiteral_iff.mpr h).symm.trans (decimalLiteral_iff.mpr hn.decimalLiteral)
    cases heq
    exact ⟨_, .whole hn, .number rfl (ofInt_signed_beq hd)⟩
  · refine ⟨_, .double h (d.isFinite_double.mp hd) fun n hn => hwhole ⟨n, hn⟩, .number rfl ?_⟩
    rw [Decimal.toFloat_eq_double hd]
    exact double_beq_self hd

theorem NumberWritten.value {cs : List Char} {negative : Bool} {d : Decimal}
    (h : NumberWritten cs negative d) (hd : d.double.isFinite = true) :
    ∃ doc, Grammar.Value cs doc ∧ Denotes (.number negative d) doc := by
  obtain ⟨sign, token, hsign, rfl, hliteral⟩ := h.literal
  obtain ⟨doc, hdoc, hdenotes⟩ := denotes_of_decimalLiteral negative hliteral hd
  obtain ⟨c, run, rfl, hc, hrun⟩ := hdoc.token
  exact ⟨doc, .number hsign hc hrun (numberValue_iff.mpr (Or.inl hdoc)), hdenotes⟩

theorem NumberWritten.passed {cs : List Char} {negative : Bool} {d : Decimal}
    (h : NumberWritten cs negative d) (rest : List Char) : Passed (cs ++ rest) rest := by
  obtain ⟨sign, token, hsign, rfl, hliteral⟩ := h.literal
  obtain ⟨c, run, rfl, hc, hrun⟩ := hliteral.token
  exact passed_number hsign hc hrun rest

/-! ## Texts without pairs are script texts -/

mutual

/-- A value without pairs is a value of a script, and what it writes there is what it denotes. -/
theorem Written.value {cs : List Char} {v : Json} {paired : Bool} (h : Written cs v paired)
    (hp : paired = false) (hv : v.Finite) : ∃ d, Grammar.Value cs d ∧ Denotes v d := by
  cases h with
  | null => exact ⟨_, .null, .null⟩
  | true => exact ⟨_, .true, .bool true⟩
  | false => exact ⟨_, .false, .bool false⟩
  | number h => exact h.value hv
  | text h => exact ⟨_, .text (Or.inl rfl) (h.quoted hp), .text _⟩
  | emptyList hs => exact ⟨_, .list (.none (hs.filler False)), .list .nil⟩
  | list h =>
    obtain ⟨docs, hdocs, hdenote⟩ := h.items hp hv
    exact ⟨_, .list hdocs, .list hdenote⟩
  | emptyObject hs =>
    have entries : ByName.LeftBy ([] : List (String × Document)) [] := ByName.leftBy_iff.mpr rfl
    exact ⟨_, .object (.none (hs.filler False)) entries, .object .nil entries⟩
  | object h =>
    obtain ⟨docs, hdocs, hdenote⟩ := h.members hp hv
    have entries : ByName.LeftBy docs (ByName.putAll [] docs) := ByName.leftBy_iff.mpr rfl
    exact ⟨_, .object hdocs entries, .object hdenote entries⟩

theorem ItemsWritten.items {cs : List Char} {vs : List Json} {paired : Bool}
    (h : ItemsWritten cs vs paired) (hp : paired = false) (hv : ItemsFinite vs) :
    ∃ ds, Grammar.Items cs ds ∧ ItemsDenote vs ds := by
  cases h with
  | last hf h hg =>
    obtain ⟨d, hd, hdenotes⟩ := h.value hp hv.1
    exact ⟨_, .last (hf.filler False) hd (hg.filler False), .cons hdenotes .nil⟩
  | more hf h hg hothers =>
    obtain ⟨hp, hbehind⟩ := Bool.or_eq_false_iff.mp hp
    obtain ⟨d, hd, hdenotes⟩ := h.value hp hv.1
    obtain ⟨ds, hds, hdenote⟩ := hothers.items hbehind hv.2
    exact ⟨_, .more (hf.filler False) hd (hg.filler False) hds, .cons hdenotes hdenote⟩

theorem MembersWritten.members {cs : List Char} {vs : List (String × Json)} {paired : Bool}
    (h : MembersWritten cs vs paired) (hp : paired = false) (hv : MembersFinite vs) :
    ∃ ds, Grammar.Members cs ds ∧ MembersDenote vs ds := by
  cases h with
  | last hf hk hg hh h hi =>
    obtain ⟨hkey, hp⟩ := Bool.or_eq_false_iff.mp hp
    obtain ⟨d, hd, hdenotes⟩ := h.value hp hv.1
    have key := hk.memberKey hkey
    exact ⟨_, .last (hf.filler False) key (hg.filler False) (hh.filler False) hd (hi.filler False),
      .cons hdenotes .nil⟩
  | more hf hk hg hh h hi hothers =>
    obtain ⟨hkey, hp⟩ := Bool.or_eq_false_iff.mp hp
    obtain ⟨hp, hbehind⟩ := Bool.or_eq_false_iff.mp hp
    obtain ⟨d, hd, hdenotes⟩ := h.value hp hv.1
    obtain ⟨ds, hds, hdenote⟩ := hothers.members hbehind hv.2
    have key := hk.memberKey hkey
    exact ⟨_, .more (hf.filler False) key (hg.filler False) (hh.filler False) hd (hi.filler False)
      hds, .cons hdenotes hdenote⟩

end

/-! ## Nesting -/

theorem passed_mark {mark : Char} (h : mark ∉ skimmed) (rest : List Char) :
    Passed (mark :: rest) rest :=
  fun _ _ => nestsWithin_plain h rest

/-- A body that the skimmer passes over is passed over with its brackets. -/
theorem nestsWithin_body {limit depth : Nat} {first last : Char} {cs : List Char}
    (hfirst : first = '\x7b' ∨ first = '[') (hlast : last = '\x7d' ∨ last = ']')
    (hlt : depth < limit)
    (hcs : ∀ rest, nestsWithin limit .code (depth + 1) (cs ++ rest) =
      nestsWithin limit .code (depth + 1) rest) (rest : List Char) :
    nestsWithin limit .code depth (first :: (cs ++ [last]) ++ rest) =
      nestsWithin limit .code depth rest := by
  rw [List.cons_append, List.append_assoc, InStep.nestsWithin_open hfirst, decide_eq_true hlt,
    Bool.true_and, hcs, List.singleton_append, InStep.nestsWithin_close hlast, Nat.add_sub_cancel]

mutual

/-- The skimmer passes over a value that is not too deep, with pairs as without. -/
theorem Written.passed {cs : List Char} {v : Json} {paired : Bool} {limit depth : Nat}
    (h : Written cs v paired) (hd : depth + v.depth ≤ limit) (rest : List Char) :
    nestsWithin limit .code depth (cs ++ rest) = nestsWithin limit .code depth rest := by
  cases h with
  | null => exact nestsWithin_run ['n', 'u', 'l', 'l'] (by simp [skimmed]) rest
  | true => exact nestsWithin_run ['t', 'r', 'u', 'e'] (by simp [skimmed]) rest
  | false => exact nestsWithin_run ['f', 'a', 'l', 's', 'e'] (by simp [skimmed]) rest
  | number h => exact h.passed rest limit depth
  | text h =>
    rw [List.cons_append, List.append_assoc, List.singleton_append]
    exact h.passed rest limit depth
  | emptyList hs =>
    simp only [Json.depth] at hd
    exact nestsWithin_body (Or.inr rfl) (Or.inr rfl) (by omega)
      (fun rest => hs.passed rest limit (depth + 1)) rest
  | list h =>
    simp only [Json.depth] at hd
    exact nestsWithin_body (Or.inr rfl) (Or.inr rfl) (by omega)
      (fun rest => h.passed (by omega) rest) rest
  | emptyObject hs =>
    simp only [Json.depth] at hd
    exact nestsWithin_body (Or.inl rfl) (Or.inl rfl) (by omega)
      (fun rest => hs.passed rest limit (depth + 1)) rest
  | object h =>
    simp only [Json.depth] at hd
    exact nestsWithin_body (Or.inl rfl) (Or.inl rfl) (by omega)
      (fun rest => h.passed (by omega) rest) rest

theorem ItemsWritten.passed {cs : List Char} {vs : List Json} {paired : Bool} {limit depth : Nat}
    (h : ItemsWritten cs vs paired) (hd : depth + itemsDepth vs ≤ limit) (rest : List Char) :
    nestsWithin limit .code depth (cs ++ rest) = nestsWithin limit .code depth rest := by
  cases h with
  | last hf h hg =>
    simp only [itemsDepth] at hd
    simp only [List.append_assoc]
    rw [hf.passed, h.passed (by omega), hg.passed]
  | more hf h hg hothers =>
    simp only [itemsDepth] at hd
    simp only [List.append_assoc, List.cons_append]
    rw [hf.passed, h.passed (by omega), hg.passed, passed_mark (by decide),
      hothers.passed (by omega)]

theorem MembersWritten.passed {cs : List Char} {vs : List (String × Json)} {paired : Bool}
    {limit depth : Nat} (h : MembersWritten cs vs paired) (hd : depth + membersDepth vs ≤ limit)
    (rest : List Char) :
    nestsWithin limit .code depth (cs ++ rest) = nestsWithin limit .code depth rest := by
  cases h with
  | last hf hk hg hh h hi =>
    simp only [membersDepth] at hd
    simp only [List.append_assoc, List.cons_append, List.nil_append]
    rw [hf.passed, hk.passed, hg.passed, passed_mark (by decide), hh.passed, h.passed (by omega),
      hi.passed]
  | more hf hk hg hh h hi hothers =>
    simp only [membersDepth] at hd
    simp only [List.append_assoc, List.cons_append, List.nil_append]
    rw [hf.passed, hk.passed, hg.passed, passed_mark (by decide), hh.passed, h.passed (by omega),
      hi.passed, passed_mark (by decide), hothers.passed (by omega)]

end

/-! ## Pairs are refused -/

theorem Spelled.text_refused {cs text : List Char} {paired : Bool} (h : Spelled cs text paired)
    (hp : paired = true) (rest : List Char) :
    (readText '"' (cs ++ '"' :: rest)).outcome = .error (.failed ()) := by
  obtain ⟨r, hr⟩ := h.broken hp rest
  unfold readText
  split
  · rename_i heq
    rw [hr] at heq
    cases heq
  · rfl
  · rfl

theorem Spelled.key_refused {cs text : List Char} {paired : Bool} (h : Spelled cs text paired)
    (hp : paired = true) (rest : List Char) :
    (readKey ('"' :: (cs ++ '"' :: rest))).outcome = .error (.failed ()) := by
  obtain ⟨r, hr⟩ := h.broken hp rest
  unfold readKey
  dsimp only
  rw [if_pos (Or.inl rfl)]
  split
  · rename_i heq
    rw [hr] at heq
    cases heq
  · rfl
  · rfl

theorem Written.begins {cs : List Char} {v : Json} {paired : Bool} (h : Written cs v paired) :
    Begins cs := by
  cases h with
  | number h =>
    obtain ⟨sign, token, hsign, rfl, hliteral⟩ := h.literal
    obtain ⟨c, run, rfl, hc, hrun⟩ := hliteral.token
    exact begins_of_number hsign hc
  | _ => exact ⟨_, _, rfl, by decide⟩

/-- A key with a pair fails its object. -/
theorem readMembers_of_pairedKey {f cs text : List Char} {paired : Bool} (hf : Space f)
    (h : Spelled cs text paired) (hp : paired = true) (rest : List Char) :
    (readMembers (f ++ ('"' :: (cs ++ ['"']) ++ rest))).outcome = .error (.failed ()) := by
  have hbegins : Begins ('"' :: (cs ++ ['"']) ++ rest) := ⟨_, _, rfl, by decide⟩
  have hs := hf.skip hbegins
  have hkey := h.key_refused hp rest
  rw [readMembers_member fun r hr => hbegins.ne (by decide) r (hs.symm.trans hr), hs,
    List.cons_append, List.append_assoc, List.singleton_append, hkey, error_bind]

mutual

/-- A value with a pair is not read. What stands in front of the pair is, so the reader gets
there. -/
theorem Written.refused {cs text rest : List Char} {v : Json} {paired : Bool}
    (h : Written cs v paired) (hp : paired = true) (hv : v.Finite)
    (hs : skipFiller text = cs ++ rest) : (readValue text).outcome = .error (.failed ()) := by
  cases h with
  | null | true | false | number | emptyList | emptyObject => cases hp
  | text h =>
    rw [List.cons_append, List.append_assoc, List.singleton_append] at hs
    rw [readValue_cons hs, if_neg (by decide), if_neg (by decide), if_pos (Or.inl rfl)]
    exact h.text_refused hp rest
  | list h =>
    rw [List.cons_append, List.append_assoc, List.singleton_append] at hs
    rw [readValue_cons hs, if_neg (by decide), if_pos rfl, h.refused hp hv rest, error_bind]
  | object h =>
    rw [List.cons_append, List.append_assoc, List.singleton_append] at hs
    rw [readValue_cons hs, if_pos rfl, h.refused hp hv rest, error_bind]

theorem ItemsWritten.refused {cs : List Char} {vs : List Json} {paired : Bool}
    (h : ItemsWritten cs vs paired) (hp : paired = true) (hv : ItemsFinite vs) (rest : List Char) :
    (readItems (cs ++ ']' :: rest)).outcome = .error (.failed ()) := by
  cases h with
  | @last f cs g v paired hf h hg =>
    have hbegins := h.begins.append (g ++ ']' :: rest)
    have hs := hf.skip hbegins
    rw [show f ++ (cs ++ g) ++ ']' :: rest = f ++ (cs ++ (g ++ ']' :: rest)) by
      simp only [List.append_assoc]]
    exact readItems_of_error (hf.filler False) hbegins (h.refused hp hv.1 hs)
  | @more f cs g others v vs paired behind hf h hg hothers =>
    have hbegins := h.begins.append (g ++ ',' :: (others ++ ']' :: rest))
    have hs := hf.skip hbegins
    rw [show f ++ (cs ++ (g ++ ',' :: others)) ++ ']' :: rest =
        f ++ (cs ++ (g ++ ',' :: (others ++ ']' :: rest))) by
      simp only [List.append_assoc, List.cons_append]]
    by_cases hpaired : paired = true
    · exact readItems_of_error (hf.filler False) hbegins (h.refused hpaired hv.1 hs)
    · rw [Bool.not_eq_true] at hpaired
      have hbehind : behind = true := by rwa [hpaired, Bool.false_or] at hp
      obtain ⟨d, hd, _⟩ := h.value hpaired hv.1
      obtain ⟨hcomma, hstops, _⟩ :=
        behind_filler (hg.filler False) (c := ',') (by decide) (others ++ ']' :: rest)
      rw [readItems_item fun r hr => hbegins.ne (by decide) r (hs.symm.trans hr),
        readValue_of_value hd hs hstops, ok_bind, readMoreItems_comma hcomma,
        hothers.refused hbehind hv.2 rest, error_bind]

theorem MembersWritten.refused {cs : List Char} {vs : List (String × Json)} {paired : Bool}
    (h : MembersWritten cs vs paired) (hp : paired = true) (hv : MembersFinite vs)
    (rest : List Char) : (readMembers (cs ++ '\x7d' :: rest)).outcome = .error (.failed ()) := by
  cases h with
  | @last f k g b cs i key v inKey paired hf hk hg hb h hi =>
    rw [show f ++ ('"' :: (k ++ ['"']) ++ (g ++ ':' :: (b ++ (cs ++ i)))) ++ '\x7d' :: rest =
        f ++ ('"' :: (k ++ ['"']) ++ (g ++ ':' :: (b ++ (cs ++ (i ++ '\x7d' :: rest))))) by
      simp only [List.append_assoc, List.cons_append]]
    by_cases hkey : inKey = true
    · exact readMembers_of_pairedKey hf hk hkey _
    · rw [Bool.not_eq_true] at hkey
      have hpaired : paired = true := by rwa [hkey, Bool.false_or] at hp
      have hs := hb.skip (h.begins.append (i ++ '\x7d' :: rest))
      rw [readMembers_of_key (hf.filler False) (hk.memberKey hkey) (hg.filler False),
        h.refused hpaired hv.1 hs, error_bind]
  | @more f k g b cs i key others v vs inKey paired behind hf hk hg hb h hi hothers =>
    rw [show f ++ ('"' :: (k ++ ['"']) ++ (g ++ ':' :: (b ++ (cs ++ (i ++ ',' :: others))))) ++
          '\x7d' :: rest =
        f ++ ('"' :: (k ++ ['"']) ++
          (g ++ ':' :: (b ++ (cs ++ (i ++ ',' :: (others ++ '\x7d' :: rest)))))) by
      simp only [List.append_assoc, List.cons_append]]
    by_cases hkey : inKey = true
    · exact readMembers_of_pairedKey hf hk hkey _
    · rw [Bool.not_eq_true] at hkey
      have hvalues : (paired || behind) = true := by rwa [hkey, Bool.false_or] at hp
      have hs := hb.skip (h.begins.append (i ++ ',' :: (others ++ '\x7d' :: rest)))
      rw [readMembers_of_key (hf.filler False) (hk.memberKey hkey) (hg.filler False)]
      by_cases hpaired : paired = true
      · rw [h.refused hpaired hv.1 hs, error_bind]
      · rw [Bool.not_eq_true] at hpaired
        have hbehind : behind = true := by rwa [hpaired, Bool.false_or] at hvalues
        obtain ⟨d, hd, _⟩ := h.value hpaired hv.1
        obtain ⟨hcomma, hstops, _⟩ :=
          behind_filler (hi.filler False) (c := ',') (by decide) (others ++ '\x7d' :: rest)
        rw [readValue_of_value hd hs hstops, ok_bind, readMoreMembers_comma hcomma,
          hothers.refused hbehind hv.2 rest, error_bind]

end

/-! ## Whole texts -/

/-- A text without pairs writes in the grammar of scripts what it denotes. -/
theorem Text.rendering {cs : List Char} {v : Json} (h : Text cs v false) (hv : v.Finite) :
    ∃ d, Rendering cs d ∧ Denotes v d := by
  cases h with
  | value hf h hg =>
    obtain ⟨d, hd, hdenotes⟩ := h.value rfl hv
    exact ⟨d, .value (hf.filler False) hd (hg.filler True), hdenotes⟩

theorem Text.nestsWithin {cs : List Char} {v : Json} {paired : Bool} {limit : Nat}
    (h : Text cs v paired) (hd : v.depth ≤ limit) : nestsWithin limit .code 0 cs = true := by
  cases h with
  | @value f cs g _ _ hf h hg =>
    have hend := hg.passed []
    rw [List.append_nil] at hend
    rw [hf.passed, h.passed (by omega), hend]
    rfl

theorem Text.refused {cs : List Char} {v : Json} (h : Text cs v true) (hv : v.Finite) :
    ∃ failure, readDocument cs = .error (.failed failure) := by
  cases h with
  | @value f cs g _ _ hf h hg =>
    have hs := hf.skip (h.begins.append g)
    have hnone := h.refused rfl hv hs
    unfold readDocument
    cases hread : readValue (f ++ (cs ++ g)) with
    | stopped halt =>
      rw [hread] at hnone
      cases halt with
      | failed e => exact ⟨e, rfl⟩
      | overflow cause => cases hnone
    | done d rest hlt =>
      rw [hread] at hnone
      cases hnone

end Json

/-- A JSON text whose lists and objects are not nested too deep and whose numbers are finite doubles
is read as the document that it denotes, unless a character in it is written as a pair of escapes.
Then it is refused as a text that cannot be read. -/
theorem json_is_read_unless_it_pairs_escapes (text : String) (v : Json) (paired : Bool)
    (h : Json.Text text.toList v paired) (hdepth : v.depth ≤ maxNesting) (hfinite : v.Finite) :
    (paired = false → ∃ d, Document.read text = .ok d ∧ Json.Denotes v d) ∧
      (paired = true →
        ∃ failure, Document.read text = .error (.failed (.unreadable text.toList failure))) := by
  have hread : Document.read text =
      (readDocument text.toList).mapError (Halt.map (.unreadable text.toList)) :=
    if_pos (h.nestsWithin hdepth)
  rw [hread]
  constructor
  · rintro rfl
    obtain ⟨d, hd, hdenotes⟩ := h.rendering hfinite
    rw [readDocument_iff.mpr hd]
    exact ⟨d, rfl, hdenotes⟩
  · rintro rfl
    obtain ⟨failure, hfailure⟩ := h.refused hfinite
    rw [hfailure]
    exact ⟨failure, rfl⟩

/-- A key is the same with an escape, the later of its members counts, a zero may have a sign. -/
theorem an_escaped_key_is_the_same_key :
    Json.Text "\x7b\"a\":null, \"\\u0061\":[-0]\x7d".toList
        (.object [("a", .null), ("a", .list [.number true ⟨0, 0⟩])]) false ∧
      (Json.object [("a", .null), ("a", .list [.number true ⟨0, 0⟩])]).depth ≤ maxNesting ∧
      (Json.object [("a", .null), ("a", .list [.number true ⟨0, 0⟩])]).Finite ∧
      ∃ d, Document.read "\x7b\"a\":null, \"\\u0061\":[-0]\x7d" = .ok d ∧
        Json.Denotes (.object [("a", .null), ("a", .list [.number true ⟨0, 0⟩])]) d := by
  have none : Json.Space [] := fun c hc => by cases hc
  have space : Json.Space [' '] := fun c hc => by simp_all
  have plain : Json.Spelled ['a'] ['a'] false := .plain (by decide) (by decide) .nil
  have digits : Json.FourDigits ['0', '0', '6', '1'] 'a'.toNat :=
    Json.fourDigits_of_hexNumber? rfl (by decide)
  have escaped : Json.Spelled ['\\', 'u', '0', '0', '6', '1'] ['a'] false := .code digits .nil
  have zero : Json.NumberWritten ['-', '0'] true ⟨0, 0⟩ :=
    .mk .minus (by decide) (Or.inl rfl) .none (.digit (by decide) (by decide)) .none
  have list : Json.Written ['[', '-', '0', ']'] (.list [.number true ⟨0, 0⟩]) false :=
    .list (.last none (.number zero) none)
  have written : Json.Text "\x7b\"a\":null, \"\\u0061\":[-0]\x7d".toList
      (.object [("a", .null), ("a", .list [.number true ⟨0, 0⟩])]) false :=
    .value none (.object (.more none plain none none .null none
      (.last space escaped none none list none))) none
  have shallow : (Json.object [("a", .null), ("a", .list [.number true ⟨0, 0⟩])]).depth ≤
      maxNesting := by decide
  have finite : (Json.object [("a", .null), ("a", .list [.number true ⟨0, 0⟩])]).Finite :=
    ⟨trivial, ⟨(by decide : (Decimal.mk 0 0).double.isFinite = true), trivial⟩, trivial⟩
  exact ⟨written, shallow, finite,
    (json_is_read_unless_it_pairs_escapes _ _ _ written shallow finite).1 rfl⟩

/-- A character outside the basic plane is refused where it is written as a pair of escapes, which
is legal JSON for it. -/
theorem a_face_in_two_escapes_is_refused :
    Json.Text "\"\\ud83d\\ude00\"".toList (.text "😀") true ∧
      (Json.text "😀").depth ≤ maxNesting ∧ (Json.text "😀").Finite ∧
      ∀ d, Document.read "\"\\ud83d\\ude00\"" ≠ .ok d := by
  have none : Json.Space [] := fun c hc => by cases hc
  have high : Json.FourDigits ['d', '8', '3', 'd'] (0xd800 + 0x3d) :=
    Json.fourDigits_of_hexNumber? rfl (by decide)
  have low : Json.FourDigits ['d', 'e', '0', '0'] (0xdc00 + 0x200) :=
    Json.fourDigits_of_hexNumber? rfl (by decide)
  have face : Json.Spelled ['\\', 'u', 'd', '8', '3', 'd', '\\', 'u', 'd', 'e', '0', '0'] ['😀']
      true := .pair (by decide) (by decide) high low (by decide) .nil
  have written : Json.Text "\"\\ud83d\\ude00\"".toList (.text "😀") true :=
    .value none (.text face) none
  refine ⟨written, by decide, trivial, fun d hd => ?_⟩
  obtain ⟨failure, hfailure⟩ := written.refused trivial
  have hread : Document.read "\"\\ud83d\\ude00\"" =
      (readDocument "\"\\ud83d\\ude00\"".toList).mapError (Halt.map (.unreadable _)) :=
    if_pos (written.nestsWithin (Nat.zero_le maxNesting))
  rw [hread, hfailure] at hd
  cases hd

end Dealer
