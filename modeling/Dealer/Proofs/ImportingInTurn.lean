-- Merging is compositional. What an address leads to does not depend on the script, and a
-- merged script has its bounds as plain values, which say the same in any setup. So a
-- merge can be taken up again: more fragments go on where the first ones ended.
import Dealer.Proofs.Importing

namespace Dealer

namespace Merge

variable {library : Library} {moderated : Bool} {m : Merge}

/-! ## Fragments first, then the merge -/

/-- The fragment at an address with its bounds, if it can be merged. -/
def found (library : Library) (moderated : Bool) (address : String) :
    Except (Halt ImportError) Fragment := do
  let script ← fragment library address
  let bounds ← (Bounds.of script).mapError fun e => .failed (.unresolved address e)
  match bounds.moderated with
  | some found =>
    if found ≠ moderated then throw (.failed (.moderatorMismatch address moderated found))
  | none => pure ()
  return ⟨script, bounds⟩

/-- A fragment is found and then joined to what is there. -/
theorem add_eq (m : Merge) (address : String) :
    add library moderated m address = m.join <$> found library moderated address := by
  unfold add found
  cases fragment library address with
  | error e => rfl
  | ok script =>
    dsimp only [Bind.bind, Except.bind, Except.mapError]
    cases Bounds.of script with
    | error e => rfl
    | ok bounds =>
      dsimp only
      cases bounds.moderated with
      | none => rfl
      | some b =>
        by_cases hb : b = moderated
        · simp only [hb, ne_eq, not_true_eq_false, ↓reduceIte]
          rfl
        · simp only [hb, ne_eq, not_false_eq_true, ↓reduceIte]
          rfl

/-- All fragments may be found before any is joined. -/
theorem foldlM_add_eq (addresses : List String) (m : Merge) :
    addresses.foldlM (add library moderated) m =
      (fun fragments => fragments.foldl join m) <$> addresses.mapM (found library moderated) := by
  induction addresses generalizing m with
  | nil => rfl
  | cons address addresses ih =>
    rw [List.foldlM_cons, add_eq, List.mapM_cons]
    cases found library moderated address with
    | error e => rfl
    | ok f =>
      refine (ih (m.join f)).trans ?_
      dsimp only [Bind.bind, Except.bind]
      cases addresses.mapM (found library moderated) <;> rfl

/-! ## A merge that is taken up again -/

/-- The bounds of a script after a merge. -/
def bounds (m : Merge) (base : Bounds) : Bounds := ⟨base.moderated, m.least, m.most⟩

/-- A merged script declares plain values, and these stand for themselves. -/
theorem bounds_of_finish (m : Merge) (base : Bounds) :
    Bounds.of (m.finish base) = .ok (m.bounds base) := by
  have number (x : Option Float) :
      Option.Rel (Quantity.Gives (m.finish base).setup) (x.map .number) x := by
    cases x with
    | none => exact .none
    | some x => exact .some ⟨[], rfl⟩
  have flag (b : Option Bool) :
      Option.Rel (Flag.Gives (m.finish base).setup) (b.map .const) b := by
    cases b with
    | none => exact .none
    | some b => exact .some ⟨[], rfl⟩
  exact Bounds.of_ok_iff.mpr ⟨flag base.moderated, number m.least, number m.most⟩

/-- A merge with the bounds that another script declares written into its script. -/
def declaring (declared : Script) (m : Merge) : Merge :=
  { m with script := { m.script with
      requireModerator := declared.requireModerator
      minMembers := declared.minMembers
      maxMembers := declared.maxMembers } }

/-- Joining fragments has nothing to do with the bounds that the script declares. -/
theorem foldl_join_declaring (declared : Script) (fragments : List Fragment) (m : Merge) :
    fragments.foldl join (m.declaring declared) = (fragments.foldl join m).declaring declared :=
  List.foldl_hom (declaring declared) fun _ _ => rfl

/-- A merge into a merged script starts where the first merge ended. -/
theorem start_finish (base : Bounds) (h : m.script.imports = []) :
    start (m.finish base) (m.bounds base) = m.declaring (m.finish base) := by
  unfold start finish declaring bounds
  rw [← h]

end Merge

/-! ## Scripts that list fragments -/

namespace Script

variable {library : Library} {most : Nat} {script : Script} {xs ys : List String}

/-- The script with these fragments listed. -/
def listing (script : Script) (addresses : List String) : Script :=
  { script with imports := addresses }

/-- The script with fragments merged into it, given the bounds that it had before. -/
def joining (script : Script) (base : Bounds) (fragments : List Fragment) : Script :=
  (fragments.foldl Merge.join (Merge.start script base)).finish base

/-- The bounds of a script with fragments merged into it. -/
def joiningBounds (script : Script) (base : Bounds) (fragments : List Fragment) : Bounds :=
  (fragments.foldl Merge.join (Merge.start script base)).bounds base

theorem bounds_of_joining (base : Bounds) (fragments : List Fragment) :
    Bounds.of (script.joining base fragments) = .ok (script.joiningBounds base fragments) :=
  Merge.bounds_of_finish _ base

theorem joining_imports (script : Script) (base : Bounds) (fragments : List Fragment) :
    (script.joining base fragments).imports = [] :=
  Merge.foldl_join_imports fragments (Merge.start script base)

/-- Fragments that are joined after others might have been joined with them. -/
theorem joining_joining (base : Bounds) (fragments more : List Fragment) :
    (script.joining base fragments).joining (script.joiningBounds base fragments) more =
      script.joining base (fragments ++ more) := by
  have flat : (fragments.foldl Merge.join (Merge.start script base)).script.imports = [] :=
    joining_imports script base fragments
  rw [joining, joining, joiningBounds, Merge.start_finish base flat, Merge.foldl_join_declaring,
    joining, List.foldl_append]
  rfl

/-- A merge resolves the bounds, finds the fragments and joins them. -/
theorem merge_listing (hxs : xs ≠ []) (hmost : xs.length ≤ most) :
    (script.listing xs).merge library most = (do
      let base ← (Bounds.of script).mapError fun e => .failed (.eval e)
      let fragments ← (xs.mapM (Merge.found library (base.moderated.getD false))).mapError
        (Halt.map .imports)
      return script.joining base fragments) := by
  have listed : (script.listing xs).imports = xs := rfl
  have sameBounds : Bounds.of (script.listing xs) = Bounds.of script := rfl
  unfold merge
  simp only [listed, if_neg hxs, if_neg (Nat.not_lt.mpr hmost), Merge.foldlM_add_eq, sameBounds]
  cases Bounds.of script with
  | error e => rfl
  | ok base =>
    dsimp only [Bind.bind, Except.bind, Except.mapError]
    cases xs.mapM (Merge.found library (base.moderated.getD false)) <;> rfl

/-- Fragments that are listed on a merged script go on where the first ones ended. -/
theorem merge_joining (base : Bounds) (fragments : List Fragment) (hmost : ys.length ≤ most) :
    ((script.joining base fragments).listing ys).merge library most = (do
      let more ← (ys.mapM (Merge.found library (base.moderated.getD false))).mapError
        (Halt.map .imports)
      return script.joining base (fragments ++ more)) := by
  by_cases hys : ys = []
  · subst hys
    have flat : (script.joining base fragments).listing [] = script.joining base fragments := by
      rw [listing, ← joining_imports script base fragments]
    have same : script.joining base fragments = script.joining base (fragments ++ []) := by
      rw [List.append_nil]
    exact congrArg Except.ok (flat.trans same)
  · rw [merge_listing hys hmost, bounds_of_joining]
    simp only [← joining_joining]
    rfl

/-- Fragments may be merged in two goes. For every library and every list of addresses that is no
longer than allowed, all of them at once lead to the same script or to the same error as the first
part of them and then the rest, which is listed on the script that came out. -/
theorem merging_may_be_taken_up_again (library : Library) (most : Nat) (script : Script)
    (xs ys : List String) (hmost : xs.length + ys.length ≤ most) :
    (script.listing (xs ++ ys)).merge library most =
      ((script.listing xs).merge library most >>= fun merged =>
        (merged.listing ys).merge library most) := by
  by_cases hxs : xs = []
  · subst hxs
    rfl
  have hlength : (xs ++ ys).length ≤ most := by
    rwa [List.length_append]
  have hys : ys.length ≤ most := by omega
  rw [merge_listing (List.append_ne_nil_of_left_ne_nil hxs ys) hlength,
    merge_listing hxs (by omega)]
  simp only [bind_assoc, pure_bind, merge_joining _ _ hys, List.mapM_append]
  cases Bounds.of script with
  | error e => rfl
  | ok base =>
    dsimp only [Bind.bind, Except.bind, Except.mapError]
    cases xs.mapM (Merge.found library (base.moderated.getD false)) with
    | error e => rfl
    | ok first =>
      dsimp only [Except.mapError]
      cases ys.mapM (Merge.found library (base.moderated.getD false)) <;> rfl

/-- A script that works out whether it asks for a moderator. -/
def unattended : Script := { event := some "a", requireModerator := some (.not (.const true)) }

/-- The second go finds the moderator as a plain value, and the event goes on. -/
theorem one_fragment_in_each_go :
    ["x"].length + ["x"].length ≤ 2 ∧ ∃ merged,
      ((unattended.listing ["x"]).merge [("x", "\x7b'event':'b'\x7d")] 2 >>= fun merged =>
        (merged.listing ["x"]).merge [("x", "\x7b'event':'b'\x7d")] 2) = .ok merged ∧
          merged.event = some "a • b • b" ∧ merged.requireModerator = some (.const false) := by
  have short : ["x"].length + ["x"].length ≤ 2 := by decide
  have twice : (unattended.listing ["x", "x"]).Lists [("x", "\x7b'event':'b'\x7d")]
      ⟨some false, none, none⟩ [eventOfFragment, eventOfFragment] :=
    .cons eventOfFragment_stands (.cons eventOfFragment_stands .nil)
  have resolved : Bounds.AreOf ⟨some false, none, none⟩ (unattended.listing ["x", "x"]) :=
    ⟨.some ⟨[], rfl⟩, .none, .none⟩
  have listed : (unattended.listing ["x", "x"]).imports ≠ [] := List.cons_ne_nil _ _
  rw [← merging_may_be_taken_up_again [("x", "\x7b'event':'b'\x7d")] 2 unattended ["x"] ["x"]
    short]
  have merges := (merge_ok_iff listed short).mpr ⟨_, _, resolved, twice, rfl⟩
  refine ⟨short, _, merges, ?_, rfl⟩
  rw [(mergeOf_finish listed twice).event]
  decide +kernel

end Script
end Dealer
