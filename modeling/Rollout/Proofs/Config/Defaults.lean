import Rollout.Proofs.Config.Shape
import Rollout.Proofs.Value.Numerals

/-!
# Declared defaults that are read back

An application declares its defaults as values of different kinds, and a configuration keeps them
as texts. A key that no parameter of the template sets has the text of the declared value, and the
reader for the kind of the declared value gives this value back.

## Implementation notes

Truth values are written as words that mean true or do not. A floating-point number comes back
when its numeral is read as the same number, which is a hypothesis here: the two zeros are written
in different ways, but they are the same number.
-/

namespace Rollout

open Entries Binary64

namespace Value

/-- A value is read as the value that was declared: a text, a truth value, an integer that is not
too long, or a floating-point number whose numeral is read as the same number. What is not a number
is read as zero. -/
def ReadsAs (v : Value) : Json → Prop
  | .str s => v.text = s
  | .stray t => v.text = t.shown
  | .bool b => v.truth = b
  | .int n => n.natAbs < 10 ^ Numeral.maxDigits →
      v.integer = .ok n ∧ v.number = .ok (.float (rounded n))
  | .float .nan => v.number = .ok (.int 0) ∧ v.float = .ok (.zero false)
  | .float x => (∃ y, Numeral.readFloat x.write = some y ∧ y.SameNumber x) →
      ∃ y z, v.number = .ok (.float y) ∧ y.SameNumber x ∧ v.float = .ok z ∧ z.SameNumber x
  | _ => True

variable (source : Source)

theorem readsAs_bool (b : Bool) : (ofText source (Defaults.write (.bool b))).ReadsAs (.bool b) := by
  cases b <;> rfl

theorem readsAs_int (n : Int) : (ofText source (Defaults.write (.int n))).ReadsAs (.int n) := by
  have htext : (Defaults.write (.int n)).toList = Text.intDigits n := String.toList_ofList
  intro hlength
  constructor
  · apply integer_of_readInt
    rw [htext, Numeral.readInt_intDigits hlength]
  · apply number_of_readFloat
    · rw [htext, Numeral.readFloat_intDigits, ofInt_eq_rounded]
    · rw [← ofInt_eq_rounded]
      exact isNan_ofFraction _ _ _

theorem readsAs_float (x : Binary64) :
    (ofText source (Defaults.write (.float x))).ReadsAs (.float x) := by
  have htext : (Defaults.write (.float x)).toList = x.write := String.toList_ofList
  have hread : (∃ y, Numeral.readFloat x.write = some y ∧ y.SameNumber x) →
      ∃ y z, (ofText source (Defaults.write (.float x))).number = .ok (.float y) ∧
        y.SameNumber x ∧ (ofText source (Defaults.write (.float x))).float = .ok z ∧
        z.SameNumber x := by
    rintro ⟨y, hy, hsame⟩
    rw [← htext] at hy
    have hnumber : (ofText source (Defaults.write (.float x))).number = .ok (.float y) :=
      number_of_readFloat hy hsame.1
    exact ⟨y, _, hnumber, hsame, float_of_number_float hnumber,
      (sameNumber_positiveZero hsame.1).trans hsame⟩
  cases x with
  | nan =>
      have hnumber : (ofText source (Defaults.write (.float .nan))).number = .ok (.int 0) :=
        number_eq_fallback_iff.mpr (.inr (htext ▸ rfl))
      exact ⟨hnumber, float_of_number_zero hnumber⟩
  | infinite negative => exact hread
  | finite negative m e => exact hread

/-- The text of a declared value is read as the value. -/
theorem readsAs_write (j : Json) : (ofText source (Defaults.write j)).ReadsAs j := by
  cases j with
  | str s => simp [ReadsAs, Value.text, ofText, Defaults.write]
  | stray t => simp [ReadsAs, Value.text, ofText, Defaults.write]
  | bool b => exact readsAs_bool source b
  | int n => exact readsAs_int source n
  | float x => exact readsAs_float source x
  | _ => trivial

end Value

namespace Config

variable {key : String} {v : Value}

/-- A parameter puts a remote value or leaves what is there. -/
theorem find?_putChosen_cases {entries : List (String × Value)} {k : String}
    {value : Option ParameterValue} (h : find? (putChosen entries k value) key = some v) :
    v.source = .remote ∨ find? entries key = some v := by
  rw [find?_putChosen] at h
  split at h
  · cases value with
    | none => exact .inr h
    | some value =>
        cases value with
        | explicit text =>
            left
            rw [← Option.some.inj h]
            rfl
        | inAppDefault => exact .inr h
  · exact .inr h

/-- All parameters together put remote values or leave what is there. -/
theorem find?_putParameters_cases {verdicts : Verdicts} {conditions : List NamedCondition}
    {entries : List (String × Value)} {parameters : Parameters}
    (h : find? (putParameters verdicts conditions entries parameters) key = some v) :
    v.source = .remote ∨ find? entries key = some v := by
  induction parameters generalizing entries with
  | nil => exact .inr h
  | cons e rest ih =>
      rw [putParameters] at h
      rcases ih h with hremote | hrest
      · exact .inl hremote
      · exact find?_putChosen_cases hrest

/-- A value that comes from the defaults is the text of the declared value of its key. -/
theorem declared_of_default {declared : List (String × Json)} {t : Template} {c : Context}
    {config : Config} (h : evaluate (.ofMembers declared) t c = .ok config)
    (hsource : (config.get key).source = .default) :
    ∃ j, find? declared key = some j ∧ config.get key = .ofText .default (Defaults.write j) := by
  obtain ⟨verdicts, _, rfl⟩ := evaluate_ok h
  rw [get] at hsource ⊢
  cases hv : find? (putParameters verdicts t.conditions (ofDefaults (.ofMembers declared)).entries
      t.parameters) key with
  | none =>
      rw [hv] at hsource
      exact absurd hsource (by decide)
  | some v =>
      rw [hv, Option.getD_some] at hsource
      rcases find?_putParameters_cases hv with hremote | hdeclared
      · rw [hremote] at hsource
        exact absurd hsource (by decide)
      · rw [find?_ofDefaults] at hdeclared
        obtain ⟨j, hj, rfl⟩ := Option.map_eq_some_iff.mp hdeclared
        exact ⟨j, hj, rfl⟩

end Config

namespace Session

/-- A key that has its value from the defaults is declared, and its value is read as the declared
one, whatever the template and the context are. -/
theorem defaults_are_read_back {s : Session} {x : ContextSource} {config : Config}
    {declared : List (String × Json)} {key : String} (hd : s.defaults = .ofMembers declared)
    (hconfig : s.evaluate x = .ok config) (hsource : (config.get key).source = .default) :
    ∃ j, find? declared key = some j ∧ (config.get key).ReadsAs j := by
  obtain ⟨t, c, hevaluate⟩ := evaluated_of_evaluate hconfig
  rw [hd] at hevaluate
  obtain ⟨j, hj, hvalue⟩ := Config.declared_of_default hevaluate hsource
  refine ⟨j, hj, ?_⟩
  rw [hvalue]
  exact Value.readsAs_write .default j

/-- Defaults of every kind, and one that the template overrides. -/
def declaredKinds : List (String × Json) :=
  [("title", .str " hi"), ("on", .bool true), ("size", .int (-12)),
    ("ratio", .float (.finite true 7205759403792794 (-56))), ("rest", .float (.zero true)),
    ("none", .float .nan), ("color", .int 1)]

/-- A template that sets the color. -/
def colored : Json :=
  .obj [("parameters", .obj [("color", .obj [("defaultValue", .obj [("value", .str "2")])])])]

/-- The defaults come back: the tenth with its sign, and the negative zero as a zero. -/
theorem declaredKinds_are_read_back :
    ∃ s config, start (.obj declaredKinds) colored none = .ok s ∧
      s.evaluate (.flat .null) = .ok config ∧ (config.get "color").source = .remote ∧
      (config.get "title").text = " hi" ∧ (config.get "on").truth = true ∧
      ((config.get "size").integer = .ok (-12) ∧
        (config.get "size").number = .ok (.float (rounded (-12)))) ∧
      (∃ y z, (config.get "ratio").number = .ok (.float y) ∧
        y.SameNumber (.finite true 7205759403792794 (-56)) ∧ (config.get "ratio").float = .ok z ∧
        z.SameNumber (.finite true 7205759403792794 (-56))) ∧
      (∃ y z, (config.get "rest").number = .ok (.float y) ∧ y.SameNumber (.zero true) ∧
        (config.get "rest").float = .ok z ∧ z.SameNumber (.zero true)) ∧
      (config.get "none").number = .ok (.int 0) ∧
        (config.get "none").float = .ok (.zero false) := by
  obtain ⟨s, config, hs, hd, hconfig, hcolor, hsource⟩ :
      ∃ s config, start (.obj declaredKinds) colored none = .ok s ∧
        s.defaults = .ofMembers declaredKinds ∧ s.evaluate (.flat .null) = .ok config ∧
        (config.get "color").source = .remote ∧
        ∀ key ∈ ["title", "on", "size", "ratio", "rest", "none"],
          (config.get key).source = .default :=
    ⟨_, _, rfl, rfl, rfl, rfl, by decide⟩
  have hread (key : String) (hkey : key ∈ ["title", "on", "size", "ratio", "rest", "none"])
      {j : Json} (hj : find? declaredKinds key = some j) : (config.get key).ReadsAs j := by
    obtain ⟨j', hj', hreads⟩ := defaults_are_read_back hd hconfig (hsource key hkey)
    rw [hj] at hj'
    rwa [Option.some.inj hj']
  have hratio : Numeral.readFloat (Binary64.finite true 7205759403792794 (-56)).write =
      some (.finite true 7205759403792794 (-56)) := by decide +kernel
  refine ⟨s, config, hs, hconfig, hcolor, ?_, ?_, ?_, ?_, ?_, ?_⟩
  · exact hread "title" (by decide) rfl
  · exact hread "on" (by decide) rfl
  · exact hread "size" (by decide) rfl (by decide +kernel)
  · exact hread "ratio" (by decide) rfl ⟨_, hratio, .refl rfl⟩
  · exact hread "rest" (by decide) rfl ⟨_, rfl, .refl rfl⟩
  · exact hread "none" (by decide) rfl

end Session

end Rollout
