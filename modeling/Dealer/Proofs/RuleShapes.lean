-- Rules as documents. The one kind whose key an object has decides how the object is
-- read, and the keys of a guard stand among those of its rule.
import Dealer.Proofs.KeyShapes

namespace Dealer

/-! ## Fields of a rule -/

theorem Document.expr?_eq_ok {α : Type} {kind : ExprKind} {read : Document → Option α} {a : α}
    {d : Document} (h : read d = some a) : expr? kind read d = .ok a := by
  rw [expr?, h]

theorem Document.orNull_eq_ok {α : Type} {read : Document → Except ShapeError α} {a : α}
    {d : Document} (hnull : d ≠ .null) (h : read d = .ok a) : orNull read d = .ok (some a) := by
  unfold orNull
  split
  · exact absurd rfl hnull
  · rw [h]
    rfl

theorem Fields.read?_eq_ok {α : Type} {fields : Fields} {key : String}
    {read : Document → Except ShapeError α} {a : α} {d : Document}
    (hget : ByName.get? key fields = some d) (hread : read d = .ok a) :
    fields.read? key read = .ok (some a) := by
  rw [read?, hget]
  show some <$> read d = _
  rw [hread]
  rfl

/-- An expression that may be missing is read as what it was written for. -/
theorem Fields.optional_expr {α : Type} {fields : Fields} {key : String} {kind : ExprKind}
    {read : Document → Option α} {a : Option α} {d : Option Document}
    (hnull : read .null = none) (hget : ByName.get? key fields = d)
    (h : Option.Rel (fun a d => read d = some a) a d) :
    fields.optional key (Document.expr? kind read) = .ok a := by
  rw [optional]
  cases h with
  | none => rw [read?, hget]; rfl
  | @some a d hread =>
    have hd : d ≠ .null := by
      rintro rfl
      rw [hnull] at hread
      cases hread
    rw [read?_eq_ok hget (Document.orNull_eq_ok hd (Document.expr?_eq_ok hread))]
    rfl

/-- A text that may be missing is read as it was written. -/
theorem Fields.optional_text {fields : Fields} {key : String} {s : Option String}
    (hget : ByName.get? key fields = s.map .text) :
    fields.optional key Document.text? = .ok s := by
  rw [optional, read?, hget]
  cases s <;> rfl

namespace Rule

section
variable {fields : Fields} {key : String}

theorem optional_flag {f : Option Flag} (hget : ByName.get? key fields = f.map Flag.toDocument) :
    fields.optional key flag = .ok f := by
  refine Fields.optional_expr (by rw [Flag.ofDocument?]; all_goals simp) hget ?_
  cases f with
  | none => exact .none
  | some f => exact .some f.ofDocument?_toDocument

theorem optional_matcher {m : Option Matcher}
    (hget : ByName.get? key fields = m.map Matcher.toDocument) :
    fields.optional key matcher = .ok m := by
  refine Fields.optional_expr (by rw [Matcher.ofDocument?]; all_goals simp) hget ?_
  cases m with
  | none => exact .none
  | some m => exact .some m.ofDocument?_toDocument

theorem optional_quantity {q : Option Quantity} {d : Option Document}
    (hget : ByName.get? key fields = d) (h : Option.Rel Quantity.WrittenAs q d) :
    fields.optional key quantity = .ok q := by
  refine Fields.optional_expr (by rw [Quantity.ofDocument?]; all_goals simp) hget ?_
  cases h with
  | none => exact .none
  | some h => exact .some h.read

theorem read?_matcher {m : Matcher} (hget : ByName.get? key fields = some m.toDocument) :
    fields.read? key matcher = .ok (some m) :=
  Fields.read?_eq_ok hget (Document.expr?_eq_ok m.ofDocument?_toDocument)

theorem read?_deck {deck : Deck} {d : Document} (hget : ByName.get? key fields = some d)
    (h : deck.WrittenAs d) : fields.read? key Rule.deck = .ok (some deck) :=
  Fields.read?_eq_ok hget (Document.expr?_eq_ok h.read)

end

/-! ## Rules -/

/-- The fields of a guard, which stand in the object of its rule. -/
def guardFields (guard : Guard) : List (String × Option Document) :=
  [("if", guard.condition.map Flag.toDocument),
    ("whenDealt", guard.whenDealt.map Matcher.toDocument)]

/-- A rule has the shape of a document: an object has those fields of its kind and its guard that
are there, and no others. -/
inductive WrittenAs : Rule → Document → Prop
  | deal {rule : DealRule} {d : Document} {limit : Option Document}
      (hdeal : rule.deal.WrittenAs d) (hlimit : Option.Rel Quantity.WrittenAs rule.limit limit) :
      WrittenAs (.deal rule) (.ofFields ([("deal", some d),
        ("for", rule.recipients.map Matcher.toDocument), ("limit", limit),
        ("cumulative", rule.cumulative.map Flag.toDocument)] ++ guardFields rule.guard))
  | reveal {rule : RevealRule} {limit : Option Document}
      (hlimit : Option.Rel Quantity.WrittenAs rule.limit limit) :
      WrittenAs (.reveal rule) (.ofFields ([("show", some rule.cards.toDocument),
        ("to", some rule.audience.toDocument), ("as", rule.label.map .text), ("limit", limit),
        ("hideSame", rule.hideSame.map Flag.toDocument),
        ("cumulative", rule.cumulative.map Flag.toDocument)] ++ guardFields rule.guard))
  | announce {rule : AnnounceRule} {limit : Option Document}
      (hlimit : Option.Rel Quantity.WrittenAs rule.limit limit) :
      WrittenAs (.announce rule) (.ofFields ([("announce", some rule.announce.toDocument),
        ("as", rule.label.map .text), ("limit", limit),
        ("cumulative", rule.cumulative.map Flag.toDocument)] ++ guardFields rule.guard))
  | explain (rule : ExplainRule) :
      WrittenAs (.explain rule)
        (.ofFields [("explain", some (.text rule.explain)), ("as", some (.text rule.text))])

theorem guardOf_of_get? {fields : Fields} {guard : Guard}
    (hif : ByName.get? "if" fields = guard.condition.map Flag.toDocument)
    (hdealt : ByName.get? "whenDealt" fields = guard.whenDealt.map Matcher.toDocument) :
    guardOf fields = .ok guard := by
  rw [guardOf, optional_flag hif, optional_matcher hdealt]
  rfl

/-- How the members of a rule of a kind are read. -/
def ofMembers (fields : Fields) : RuleKind → Except ShapeError Rule
  | .deal => .deal <$> dealOf fields
  | .reveal => .reveal <$> revealOf fields
  | .announce => .announce <$> announceOf fields
  | .explain => .explain <$> explainOf fields

/-- An object with the key of one kind is read as a rule of this kind. -/
theorem ofDocument_ofFields (kind : RuleKind) {entries : List (String × Option Document)}
    {rule : Rule} (h : (entries.map Prod.fst).Nodup)
    (hkind : (RuleKind.all.filter fun kind => (List.lookup kind.key entries).join.isSome) = [kind])
    (hread : ∀ fields : Fields, (∀ key, ByName.get? key fields = (List.lookup key entries).join) →
      ofMembers fields kind = .ok rule) : ofDocument (.ofFields entries) = .ok rule := by
  obtain ⟨fields, heq, hget⟩ := Document.ofFields_members h
  have hhas : (RuleKind.all.filter fun kind => ByName.has kind.key fields) = [kind] := by
    rw [← hkind]
    simp only [ByName.has, hget]
  rw [heq, ofDocument, hhas]
  show Except.mapError (ShapeError.inRule kind) (ofMembers fields kind) = _
  rw [hread fields hget]
  rfl

theorem WrittenAs.read {rule : Rule} {d : Document} (h : rule.WrittenAs d) :
    ofDocument d = .ok rule := by
  cases h with
  | @deal rule d limit hdeal hlimit =>
    refine ofDocument_ofFields .deal (by simp [guardFields])
      (by simp [RuleKind.all, RuleKind.key, guardFields, List.lookup_cons]) fun fields hget => ?_
    rw [ofMembers, dealOf, optional_flag (hget "cumulative"), read?_deck (hget "deal") hdeal,
      optional_matcher (hget "for"), optional_quantity (hget "limit") hlimit,
      guardOf_of_get? (hget "if") (hget "whenDealt")]
    rfl
  | @reveal rule limit hlimit =>
    refine ofDocument_ofFields .reveal (by simp [guardFields])
      (by simp [RuleKind.all, RuleKind.key, guardFields, List.lookup_cons]) fun fields hget => ?_
    rw [ofMembers, revealOf, Fields.optional_text (hget "as"), optional_flag (hget "cumulative"),
      optional_flag (hget "hideSame"), optional_quantity (hget "limit") hlimit,
      read?_matcher (hget "show"), read?_matcher (hget "to"),
      guardOf_of_get? (hget "if") (hget "whenDealt")]
    rfl
  | @announce rule limit hlimit =>
    refine ofDocument_ofFields .announce (by simp [guardFields])
      (by simp [RuleKind.all, RuleKind.key, guardFields, List.lookup_cons]) fun fields hget => ?_
    rw [ofMembers, announceOf, read?_matcher (hget "announce"), Fields.optional_text (hget "as"),
      optional_flag (hget "cumulative"), optional_quantity (hget "limit") hlimit,
      guardOf_of_get? (hget "if") (hget "whenDealt")]
    rfl
  | explain rule =>
    refine ofDocument_ofFields .explain (by simp)
      (by simp [RuleKind.all, RuleKind.key, List.lookup_cons]) fun fields hget => ?_
    rw [ofMembers, explainOf, Fields.read?_eq_ok (hget "as") (a := rule.text) rfl,
      Fields.read?_eq_ok (hget "explain") (a := rule.explain) rfl]
    rfl

/-- Every rule has a document of its shape. -/
theorem exists_written (rule : Rule) : ∃ d, rule.WrittenAs d := by
  cases rule with
  | deal rule =>
    exact ⟨_, .deal rule.deal.toDocument_written (Quantity.toDocument_written_map rule.limit)⟩
  | reveal rule => exact ⟨_, .reveal (Quantity.toDocument_written_map rule.limit)⟩
  | announce rule => exact ⟨_, .announce (Quantity.toDocument_written_map rule.limit)⟩
  | explain rule => exact ⟨_, .explain rule⟩

end Rule

/-- A document with the keys and the parts of an expression or a rule is read as this one and as no
other: no form that is tried before takes it, and no field of it gets lost. Of every expression and
every rule there is such a document. -/
theorem what_is_written_is_read_back :
    (∀ q : Quantity, (∃ d, q.WrittenAs d) ∧
      ∀ d, q.WrittenAs d → Quantity.ofDocument? d = some q) ∧
    (∀ f : Flag, Flag.ofDocument? f.toDocument = some f) ∧
    (∀ s : LabelSet, LabelSet.ofDocument? s.toDocument = some s) ∧
    (∀ deck : Deck, (∃ d, deck.WrittenAs d) ∧
      ∀ d, deck.WrittenAs d → Deck.ofDocument? d = some deck) ∧
    (∀ m : Matcher, Matcher.ofDocument? m.toDocument = some m) ∧
    (∀ rule : Rule, (∃ d, rule.WrittenAs d) ∧
      ∀ d, rule.WrittenAs d → Rule.ofDocument d = .ok rule) :=
  ⟨fun q => ⟨⟨_, q.toDocument_written⟩, fun _ h => h.read⟩, Flag.ofDocument?_toDocument,
    LabelSet.ofDocument?_toDocument, fun deck => ⟨⟨_, deck.toDocument_written⟩, fun _ h => h.read⟩,
    Matcher.ofDocument?_toDocument, fun rule => ⟨rule.exists_written, fun _ h => h.read⟩⟩

/-- A deal of two of the roles on a night, with the whole number as it is mostly written. -/
theorem a_guarded_deal_is_read_back :
    Rule.ofDocument (.ofFields
      [("deal", some (.ofFields [("choose", some (.int 2)), ("from", some (.text "roles"))])),
        ("for", some (.object [("is", .text "spy")])), ("limit", none),
        ("cumulative", some (.bool true)), ("if", some (.text "night")), ("whenDealt", none)]) =
      .ok (.deal {
        deal := .choose (.number (Float.ofInt 2)) (.label "roles")
        recipients := some (.test .is "spy")
        cumulative := some (.const true)
        guard := { condition := some (.param "night") } }) := by
  obtain ⟨-, -, -, -, -, hrule⟩ := what_is_written_is_read_back
  refine (hrule _).2 _ ?_
  have h : Rule.WrittenAs (.deal {
      deal := .choose (.number (Float.ofInt 2)) (.label "roles")
      recipients := some (.test .is "spy")
      cumulative := some (.const true)
      guard := { condition := some (.param "night") } }) _ :=
    .deal (.choose (.whole 2) (.label "roles")) .none
  simpa [Rule.guardFields, Matcher.toDocument, Flag.toDocument, LabelTest.key] using h

end Dealer
