import Rollout.Proofs.Condition.Dependence
import Rollout.Proofs.Condition.Encodable
import Rollout.Proofs.Context.Lookup

/-!
# Withholding signals

A client may keep signals to itself, the id among them, by leaving them out or giving null for them.
What is missing fails closed: no comparison of a missing signal holds, whichever way the operator
looks, and no percent rule holds without an id. A condition that holds although something was
withheld therefore holds when everything is told.

## Implementation notes

When more is told, a comparison that was not carried out before may end in a fault. The statements
are about the verdict in the fuller context, if there is one.
-/

namespace Rollout

/-- A context tells no more than a fuller one: its id and each of its signals are missing or as
there. -/
structure Context.Within (part full : Context) : Prop where
  id : part.id = none ∨ part.id = full.id
  get : ∀ key, (part.get key).isNull = true ∨ part.get key = full.get key

variable {part full : Context}

namespace PercentRule

theorem holds_of_id_none {c : Context} (hid : c.id = none) (rule : PercentRule) :
    rule.holds c = .ok false := by
  rw [holds, hid]

theorem holds_of_within (h : part.Within full) {rule : PercentRule}
    (hr : rule.holds part = .ok true) : rule.holds full = .ok true := by
  rcases h.id with hid | hid
  · rw [holds_of_id_none hid] at hr
    cases hr
  · rwa [holds_congr hid] at hr

end PercentRule

theorem Signal.Rule.holds_of_within (h : part.Within full) {rule : Signal.Rule}
    (hr : rule.holds part = .ok true) : rule.holds full = .ok true := by
  by_cases hkey : ∃ key, rule.key = some key ∧ (part.get key).isNull = true
  · obtain ⟨key, hkey, hnull⟩ := hkey
    have hmissing : ∀ k, rule.key = some k → (part.get k).isNull = true := fun k hk =>
      Option.some.inj (hkey.symm.trans hk) ▸ hnull
    rw [holds_of_isNull hmissing] at hr
    cases hr
  · have hget : ∀ key, rule.key = some key → part.get key = full.get key := fun key hk =>
      (h.get key).resolve_left fun hnull => hkey ⟨key, hk, hnull⟩
    rwa [holds_congr hget] at hr

namespace Condition

/-- A condition that holds in a context holds in every fuller one, if it has a verdict there. -/
theorem holdsAt_of_within (h : part.Within full) {condition : Condition} {level : Int}
    (hc : holdsAt part condition level = .ok true) {b : Bool}
    (hb : holdsAt full condition level = .ok b) : b = true := by
  induction condition generalizing level b with
  | any conditions ih =>
      rw [holdsAt] at hc hb
      split at hc
      · cases hc
      rename_i hdeep
      rw [if_neg hdeep] at hb
      refine anyHoldsAt_keeps (List.forall₂_same.2 fun x hx hx' b hb' => ?_) hc hb
      exact ih x hx hx' hb'
  | all conditions ih =>
      rw [holdsAt] at hc hb
      split at hc
      · cases hc
      rename_i hdeep
      rw [if_neg hdeep] at hb
      refine allHoldAt_keeps (List.forall₂_same.2 fun x hx hx' b hb' => ?_) hc hb
      exact ih x hx hx' hb'
  | percent rule =>
      rw [holdsAt] at hc hb
      exact Except.ok.inj (hb.symm.trans (PercentRule.holds_of_within h hc))
  | signal rule =>
      rw [holdsAt] at hc hb
      exact Except.ok.inj (hb.symm.trans (Signal.Rule.holds_of_within h hc))
  | always =>
      rw [holdsAt] at hb
      exact (Except.ok.inj hb).symm
  | never | unrecognized =>
      rw [holdsAt] at hc
      cases hc

/-! ## Flat contexts -/

/-- The members of a flat context from which some were withheld: each key is missing, null, or has
the value that it has among all signals. -/
def Withheld (shown signals : List (String × Json)) : Prop :=
  ∀ key, (Json.obj shown).field key = .null ∨
    (Json.obj shown).field key = (Json.obj signals).field key

theorem within_of_withheld {shown signals : List (String × Json)} (h : Withheld shown signals) :
    (PlainContext.object shown).context.Within (PlainContext.object signals).context where
  id := by
    rw [PlainContext.object_id, PlainContext.object_id]
    rcases h Context.idKey with h | h
    · rw [h]
      exact .inl rfl
    · exact .inr (congrArg _ h)
  get key := by
    rw [PlainContext.object_get, PlainContext.object_get]
    rcases h key with h | h
    · rw [h]
      exact .inl rfl
    · exact .inr h

/-- Withholding signals fails closed. A condition that holds in what is shown has no other verdict
in the context of all signals, a comparison does not hold unless its signal is shown, and a percent
rule does not hold unless the id is. -/
theorem withheld_signals_fail_closed {shown signals : List (String × Json)}
    (h : Withheld shown signals) (hpart : Context.flat (.obj shown) = .ok part)
    (hfull : Context.flat (.obj signals) = .ok full) :
    (∀ condition level, holdsAt part condition level = .ok true →
        ∀ b, holdsAt full condition level = .ok b → b = true) ∧
      (∀ rule : Signal.Rule,
        (∀ key, rule.key = some key → (Json.obj shown).field key = .null) →
          rule.holds part = .ok false) ∧
      ((Json.obj shown).field Context.idKey = .null →
        ∀ rule : PercentRule, rule.holds part = .ok false) := by
  rw [Context.flat_obj, Except.ok.injEq] at hpart hfull
  subst hpart hfull
  refine ⟨fun condition level hc b hb => ?_, fun rule hmissing => ?_, fun hid rule => ?_⟩
  · exact holdsAt_of_within (within_of_withheld h) hc hb
  · apply Signal.Rule.holds_of_isNull
    intro key hkey
    rw [PlainContext.object_get, hmissing key hkey]
    rfl
  · apply PercentRule.holds_of_id_none
    rw [PlainContext.object_id, hid]
    rfl

/-- The plan of a client is not the free one. -/
def notFree : Signal.Rule :=
  { operator := some (.text .lacks), key := some "plan", targets := ["free"] }

/-- Half of the population. -/
def half : PercentRule :=
  { operator := some .lessOrEqual, limit := some 50000000, seed := .null, range := none }

/-- Half of the population, and beside it whoever has another plan than the free one. -/
def halfOrPaying : Condition := .any [.percent half, .signal notFree]

/-- A client that tells its plan, but neither its id nor its country. -/
def reserved : List (String × Json) := [("plan", .str "pro"), ("country", .null)]

/-- The same client with everything told. -/
def frank : List (String × Json) :=
  [("randomization_id", .str "r"), ("country", .str "DE"), ("plan", .str "pro")]

/-- The condition holds of a paying client that does not tell its id, and still holds when it
does. When the plan is withheld, too, that the plan is not the free one does not hold. -/
theorem reserved_client_fails_closed :
    Withheld reserved frank ∧ Withheld [] frank ∧
      holdsAt (.ofSignals (.ofMembers reserved)) halfOrPaying 9 = .ok true ∧
      holdsAt (.ofSignals (.ofMembers frank)) halfOrPaying 9 = .ok true ∧
      notFree.holds (.ofSignals []) = .ok false := by
  have hreserved : Withheld reserved frank := by
    intro key
    by_cases hplan : "plan" = key
    · subst hplan
      exact .inr rfl
    · left
      by_cases hcountry : "country" = key <;>
        simp [reserved, Json.field, Entries.find?_cons, hplan, hcountry]
  have hnothing : Withheld [] frank := fun key => .inl rfl
  have hholds : holdsAt (.ofSignals (.ofMembers reserved)) halfOrPaying 9 = .ok true := rfl
  have hpaying : notFree.holds (.ofSignals (.ofMembers frank)) = .ok true := rfl
  obtain ⟨b, hb⟩ : ∃ b, holdsAt (.ofSignals (.ofMembers frank)) halfOrPaying 9 = .ok b := by
    have hplain : (Context.ofSignals (.ofMembers frank)).id = some (.plain "r") := rfl
    have hseed : ∀ t, half.seed ≠ .stray t := by simp [half]
    have hid : ∀ t, (Context.ofSignals (.ofMembers frank)).id ≠ some (.stray t) := by
      simp [hplain]
    obtain ⟨b, hhalf⟩ := PercentRule.exists_holds_of_plain hseed hid
    cases b <;> simp [halfOrPaying, holdsAt, anyHoldsAt, hhalf, hpaying, maxDepth]
  obtain ⟨htold, _⟩ :=
    withheld_signals_fail_closed hreserved (Context.flat_obj _) (Context.flat_obj _)
  obtain ⟨_, hlacking, _⟩ :=
    withheld_signals_fail_closed hnothing (Context.flat_obj _) (Context.flat_obj _)
  exact ⟨hreserved, hnothing, hholds, htold _ _ hholds b hb ▸ hb, hlacking _ fun _ _ => rfl⟩

end Condition

end Rollout
