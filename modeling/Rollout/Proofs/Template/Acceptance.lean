import Rollout.Proofs.Condition.Reading
import Rollout.Proofs.Until
import Rollout.Session

/-!
# Which templates are accepted

A template is read in a fixed order: its parameters, and then its conditions one by one. Whatever
has the wrong shape is a rejection. The only fault is that of an infinite bound, and it needs a
template whose entries up to the condition with that bound are in order.

## Implementation notes

`EscapesIff` sorts the ends of a reading into three: success, rejection and fault. It carries the
condition for the fault in both directions, so that readers which call each other need one lemma
each.
-/

namespace Rollout

/-- A computation succeeds or rejects what it was given. -/
def AcceptedOrRejected {α : Type} (r : Except Failure α) : Prop :=
  (∃ a, r = .ok a) ∨ ∃ x, r = .error (.rejected x)

/-- A computation ends in the fault of an infinite number when `p` holds; when it does not, the
computation succeeds or rejects what it was given. -/
structure EscapesIff {α : Type} (p : Prop) (r : Except Failure α) : Prop where
  escapes : p → r = .error (.fault .infiniteInteger)
  proper : ¬ p → AcceptedOrRejected r

namespace EscapesIff

variable {α : Type} {p : Prop} {r : Except Failure α}

theorem of_ok {a : α} (hp : ¬ p) (hr : r = .ok a) : EscapesIff p r :=
  ⟨fun h => absurd h hp, fun _ => .inl ⟨a, hr⟩⟩

theorem of_rejected {x : Rejection} (hp : ¬ p) (hr : r = .error (.rejected x)) :
    EscapesIff p r :=
  ⟨fun h => absurd h hp, fun _ => .inr ⟨x, hr⟩⟩

theorem proper_iff (h : EscapesIff p r) : AcceptedOrRejected r ↔ ¬ p := by
  constructor
  · rintro (⟨a, ha⟩ | ⟨x, hx⟩) hp
    · rw [h.escapes hp] at ha
      cases ha
    · rw [h.escapes hp] at hx
      cases hx
  · exact h.proper

end EscapesIff

/-! ## Parameters -/

namespace Parameter

/-- The shape of a parameter: an object whose conditional values are an object or not set. -/
def Accepted (j : Json) : Prop :=
  (∃ members, j = .obj members) ∧
    ((j.field "conditionalValues").isSet = false ∨
      ∃ members, j.field "conditionalValues" = .obj members)

theorem conditionalMembers_ok_iff (key : String) (j : Json) :
    (∃ members, conditionalMembers key j = .ok members) ↔
      j.isSet = false ∨ ∃ members, j = .obj members := by
  unfold conditionalMembers
  cases hs : j.isSet with
  | false => simp
  | true => cases j <;> simp

theorem ofJson_ok_iff (key : String) (j : Json) :
    (∃ p, ofJson key j = .ok p) ↔ Accepted j := by
  cases j with
  | obj members =>
      have h := conditionalMembers_ok_iff key ((Json.obj members).field "conditionalValues")
      simp only [Accepted, ← h]
      cases hc : conditionalMembers key ((Json.obj members).field "conditionalValues") <;>
        simp [ofJson, hc]
  | _ => simp [ofJson, Accepted]

end Parameter

namespace Template

/-- The shape of the parameters of a template: if there are any, an object of parameters. -/
def ParametersAccepted (j : Json) : Prop :=
  ∀ declared, j.field? "parameters" = some declared →
    ∃ members, declared = .obj members ∧ ∀ e ∈ members, Parameter.Accepted e.2

theorem readParameters_ok_iff (members : List (String × Json)) :
    (∃ parameters, readParameters members = .ok parameters) ↔
      ∀ e ∈ members, Parameter.Accepted e.2 := by
  induction members with
  | nil => simp [readParameters]
  | cons e rest ih =>
      obtain ⟨key, j⟩ := e
      simp only [List.forall_mem_cons, ← ih, ← Parameter.ofJson_ok_iff key j]
      cases hp : Parameter.ofJson key j with
      | error e => simp [readParameters, hp]
      | ok p => cases hr : readParameters rest <;> simp [readParameters, hp, hr]

theorem rejected_of_readParameters {members : List (String × Json)} {e : Failure}
    (h : readParameters members = .error e) : ∃ x, e = .rejected x := by
  induction members with
  | nil => simp [readParameters] at h
  | cons entry rest ih =>
      obtain ⟨key, j⟩ := entry
      cases hp : Parameter.ofJson key j with
      | error x =>
          simp only [readParameters, hp, Except.error.injEq] at h
          exact ⟨x, h.symm⟩
      | ok p =>
          cases hr : readParameters rest with
          | error e' =>
              simp only [readParameters, hp, hr, Except.error.injEq] at h
              exact ih (hr.trans (congrArg _ h))
          | ok parameters => simp [readParameters, hp, hr] at h

theorem parametersOf_ok_iff (j : Json) :
    (∃ parameters, parametersOf j = .ok parameters) ↔ ParametersAccepted j := by
  unfold parametersOf ParametersAccepted
  cases hf : j.field? "parameters" with
  | none => simp
  | some declared =>
      cases declared with
      | obj members => simp [readParameters_ok_iff]
      | _ => simp

theorem rejected_of_parametersOf {j : Json} {e : Failure} (h : parametersOf j = .error e) :
    ∃ x, e = .rejected x := by
  unfold parametersOf at h
  split at h
  · cases h
  · exact rejected_of_readParameters h
  · exact ⟨_, (Except.error.inj h).symm⟩

/-! ## Conditions -/

/-- An entry of a list of conditions has a name, which is a text. -/
def Named (j : Json) : Prop := ∃ name, (j.field "name").text? = some name

/-- The entries of a list of conditions, read in order, come to one with an infinite bound: it has
a name, and the entries before it have names and finite bounds. -/
def ReachesInfinity (items : List Json) : Prop :=
  Until (fun j => Named j ∧ ¬ Condition.InfiniteBound (j.field "condition"))
    (fun j => Named j ∧ Condition.InfiniteBound (j.field "condition")) items

theorem readCondition_of_not_named {j : Json} (h : ¬ Named j) :
    readCondition j = .error (.rejected (.unnamedCondition j)) := by
  unfold readCondition
  split
  · rename_i name hname
    exact absurd ⟨name, hname⟩ h
  · rfl

theorem readCondition_of_named {j : Json} (h : Named j) :
    (Condition.InfiniteBound (j.field "condition") →
        readCondition j = .error (.fault .infiniteInteger)) ∧
      (¬ Condition.InfiniteBound (j.field "condition") → ∃ named, readCondition j = .ok named) := by
  obtain ⟨name, hname⟩ := h
  have hread := Condition.ofJson_failsIff (j.field "condition")
  constructor
  · intro hinf
    simp only [readCondition, hname, hread.error hinf]
  · intro hinf
    obtain ⟨condition, hc⟩ := hread.ok hinf
    exact ⟨_, by simp only [readCondition, hname, hc]; rfl⟩

theorem readConditions_escapesIff (items : List Json) :
    EscapesIff (ReachesInfinity items) (readConditions items) := by
  induction items with
  | nil => exact .of_ok not_until_nil rfl
  | cons j rest ih =>
      rw [ReachesInfinity, until_cons_iff]
      by_cases hname : Named j
      · have hread := readCondition_of_named hname
        by_cases hinf : Condition.InfiniteBound (j.field "condition")
        · refine ⟨fun _ => ?_, fun h => absurd (.inl ⟨hname, hinf⟩) h⟩
          simp only [readConditions, hread.1 hinf]
        · obtain ⟨named, hc⟩ := hread.2 hinf
          constructor
          · intro h
            have htail := (h.resolve_left fun h' => hinf h'.2).2
            simp only [readConditions, hc, ih.escapes htail]
          · intro h
            rcases ih.proper fun htail => h (.inr ⟨⟨hname, hinf⟩, htail⟩) with ⟨cs, hcs⟩ | ⟨x, hx⟩
            · exact .inl ⟨_, by simp only [readConditions, hc, hcs]; rfl⟩
            · exact .inr ⟨x, by simp only [readConditions, hc, hx]⟩
      · refine .of_rejected (x := .unnamedCondition j) ?_ ?_
        · rintro (h | h)
          · exact hname h.1
          · exact hname h.1.1
        · simp only [readConditions, readCondition_of_not_named hname]

/-- The conditions that a value declares come to an infinite bound. -/
def ConditionsReachInfinity (j : Json) : Prop :=
  ∃ items, j.field? "conditions" = some (.arr items) ∧ ReachesInfinity items

theorem conditionsOf_escapesIff (j : Json) :
    EscapesIff (ConditionsReachInfinity j) (conditionsOf j) := by
  unfold conditionsOf ConditionsReachInfinity
  cases hf : j.field? "conditions" with
  | none => exact .of_ok (by simp) rfl
  | some declared =>
      cases declared with
      | arr items => simpa using readConditions_escapesIff items
      | null => exact .of_rejected (by simp) rfl
      | _ => exact .of_rejected (by simp) rfl

/-! ## Templates -/

/-- A template that comes to an infinite bound: a value whose parameters are in order and whose
conditions come to one. -/
def Overflows (j : Json) : Prop := ParametersAccepted j ∧ ConditionsReachInfinity j

theorem ofJson_escapesIff (j : Json) : EscapesIff (Overflows j) (ofJson j) := by
  cases j with
  | obj members =>
      simp only [ofJson]
      cases hp : parametersOf (.obj members) with
      | error e =>
          obtain ⟨x, rfl⟩ := rejected_of_parametersOf hp
          refine .of_rejected (fun h => ?_) rfl
          obtain ⟨parameters, hok⟩ := (parametersOf_ok_iff _).mpr h.1
          rw [hp] at hok
          cases hok
      | ok parameters =>
          have haccepted := (parametersOf_ok_iff _).mp ⟨parameters, hp⟩
          have hconds := conditionsOf_escapesIff (.obj members)
          constructor
          · intro h
            simp only [hconds.escapes h.2]
          · intro h
            rcases hconds.proper fun h' => h ⟨haccepted, h'⟩ with ⟨cs, hcs⟩ | ⟨x, hx⟩
            · exact .inl ⟨_, by simp only [hcs]; rfl⟩
            · exact .inr ⟨x, by simp only [hx]⟩
  | _ =>
      refine .of_rejected (fun h => ?_) rfl
      obtain ⟨items, hitems, _⟩ := h.2
      simp [Json.field?] at hitems

/-- A source that comes to an infinite bound: a value, or a text in which one can be read. -/
def SourceOverflows (source : Json) : Prop :=
  match source.text? with
  | some text => ∃ j, Json.read text = .ok j ∧ Overflows j
  | none => Overflows source

theorem ofText_escapesIff (text : String) :
    EscapesIff (SourceOverflows (.str text)) (ofText text) := by
  unfold ofText
  cases hr : Json.read text with
  | error e => exact .of_rejected (by simp [SourceOverflows, Json.text?, hr]) rfl
  | ok j => simpa [SourceOverflows, Json.text?, hr] using ofJson_escapesIff j

theorem ofSource_escapesIff (source : Json) :
    EscapesIff (SourceOverflows source) (ofSource source) := by
  unfold SourceOverflows ofSource
  cases source.text? with
  | some text => exact ofText_escapesIff text
  | none => exact ofJson_escapesIff source

end Template

/-! ## Setting and loading -/

namespace Session

theorem accept_acceptedOrRejected_iff (s : Session) (r : Except Failure Template) :
    AcceptedOrRejected (s.accept r).2 ↔ AcceptedOrRejected r := by
  cases r <;> simp [accept, AcceptedOrRejected]

theorem accept_error_iff (s : Session) (r : Except Failure Template) (f : Failure) :
    (s.accept r).2 = .error f ↔ r = .error f := by
  cases r <;> simp [accept]

theorem start_acceptedOrRejected_iff (members : List (String × Json)) (source : Json)
    (loader : Option Loader) :
    AcceptedOrRejected (start (.obj members) source loader) ↔
      ¬ Template.SourceOverflows source := by
  rw [← (Template.ofSource_escapesIff source).proper_iff]
  unfold start
  simp only [Defaults.ofJson]
  split
  · constructor
    · intro _
      exact .inr ⟨.notObject, rfl⟩
    · intro _
      exact .inl ⟨_, rfl⟩
  · cases h : Template.ofSource source <;> simp [AcceptedOrRejected]

/-- The failures that a fetched template may end in: there is no loader, its delivery is rejected,
it met a trouble of its own, or it reported a failure itself. -/
inductive LoadFailure (s : Session) : Failure → Prop
  | noLoader (h : s.loader = none) : LoadFailure s (.unready .noLoader)
  | rejected (x : Rejection) : LoadFailure s (.rejected x)
  | mishap (m : Mishap) : LoadFailure s (.loading m)
  | reported {loader : Loader} {f : Failure} (h : s.loader = some loader)
      (d : loader.first = .failure f) : LoadFailure s f

theorem load_failure_iff (s : Session) :
    (∀ f, s.load.2 = .error f → LoadFailure s f) ↔
      ∀ loader source, s.loader = some loader → loader.first = .source source →
        ¬ Template.SourceOverflows source := by
  constructor
  · intro h loader source hl hd hover
    have hfault := (Template.ofSource_escapesIff source).escapes hover
    have hload : s.load.2 = .error (.fault .infiniteInteger) := by
      simp only [load, hl, hd, receive, accept_error_iff, hfault]
    cases h _ hload with
    | reported hl' hd' =>
        obtain rfl := Option.some.inj (hl.symm.trans hl')
        rw [hd] at hd'
        cases hd'
  · intro h f hf
    cases hl : s.loader with
    | none =>
        simp only [load, hl, Except.error.injEq] at hf
        exact hf ▸ .noLoader hl
    | some loader =>
        simp only [load, hl, accept_error_iff] at hf
        cases hd : loader.first with
        | source source =>
            rw [hd, receive] at hf
            have hproper := (Template.ofSource_escapesIff source).proper (h loader source hl hd)
            rcases hproper with ⟨t, ht⟩ | ⟨x, hx⟩
            · rw [ht] at hf
              cases hf
            · rw [hx] at hf
              exact Except.error.inj hf ▸ .rejected x
        | template t => simp [hd, receive] at hf
        | failure f' =>
            rw [hd, receive] at hf
            exact .reported hl (hd.trans (congrArg _ (Except.error.inj hf)))
        | mishap m =>
            rw [hd, receive] at hf
            exact Except.error.inj hf ▸ .mishap m

/-- Setting and loading a template end in success or in one of the failures that they declare,
unless the template comes to an infinite bound; likewise a condition can be read, and a bound
counts as an integer or as missing, unless something infinite is met. -/
theorem refused_only_by_rejection_iff (s : Session) (source j : Json)
    (members : List (String × Json)) (loader : Option Loader) :
    (AcceptedOrRejected (s.step (.set source)).2 ↔ ¬ Template.SourceOverflows source) ∧
      (AcceptedOrRejected (start (.obj members) source loader) ↔
        ¬ Template.SourceOverflows source) ∧
      ((∀ f, (s.step .load).2 = .error f → LoadFailure s f) ↔
        ∀ loader delivered, s.loader = some loader → loader.first = .source delivered →
          ¬ Template.SourceOverflows delivered) ∧
      ((∃ condition, Condition.ofJson j = .ok condition) ↔ ¬ Condition.InfiniteBound j) ∧
      ((∃ bound, PercentRule.readBound j = .ok bound) ↔ ¬ j.isInfinite = true) := by
  refine ⟨?_, start_acceptedOrRejected_iff members source loader, load_failure_iff s, ?_, ?_⟩
  · rw [step, accept_acceptedOrRejected_iff]
    exact (Template.ofSource_escapesIff source).proper_iff
  · exact (Condition.ofJson_failsIff j).ok_iff
  · exact (PercentRule.readBound_failsIff j).ok_iff

/-- A percent rule with an infinite limit. -/
def infiniteLimit : Json :=
  .obj [("percent", .obj [("microPercent", .float (.infinite false))])]

/-- A template whose only condition has an infinite limit. -/
def infiniteTemplate : Json :=
  .obj [("conditions", .arr [.obj [("name", .str "c"), ("condition", infiniteLimit)]])]

/-- An infinite limit is neither treated as missing nor rejected. -/
theorem infinite_limit_escapes :
    (∀ condition, Condition.ofJson infiniteLimit ≠ .ok condition) ∧
      ¬ AcceptedOrRejected ((empty [] none).step (.set infiniteTemplate)).2 := by
  constructor
  · intro condition h
    cases h
  · rintro (⟨a, h⟩ | ⟨x, h⟩) <;> cases h

end Session

end Rollout
