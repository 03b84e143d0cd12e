import Rollout.Proofs.Json.RoundTrip
import Rollout.Session

/-!
# Templates that are written and set again

The text that a session writes is accepted by every session and gives the template back with
everything in it, so that it is written as the same text and evaluated with the same answers.

## Implementation notes

A template keeps the value that it was read from, and all its other parts are functions of this
value. What is left to show is that the value is read from its own text as it was. Integers that
are too long to be written are the one thing that a value which was not read from a text may
contain and a text may not.
-/

namespace Rollout

namespace Template

open Json

theorem source_of_ofJson {j : Json} {t : Template} (h : ofJson j = .ok t) : t.source = j := by
  unfold ofJson at h
  split at h
  · split at h
    · cases h
    split at h
    · cases h
    · cases h
      rfl
  · cases h

/-- A template is read from the value that it keeps, which repeats no key and has no integer that
is too long if this is so of the source. -/
theorem ofSource_ok {source : Json} {t : Template} (hkeys : source.Distinct)
    (hshort : source.Short) (h : ofSource source = .ok t) :
    ofJson t.source = .ok t ∧ t.source.Distinct ∧ t.source.Short := by
  unfold ofSource at h
  split at h
  · rename_i text
    unfold ofText at h
    split at h
    · cases h
    · rename_i hread
      rw [source_of_ofJson h]
      exact ⟨h, distinct_of_read hread, short_of_read hread⟩
  · rw [source_of_ofJson h]
    exact ⟨h, hkeys, hshort⟩

/-- A template is read again from its own text. -/
theorem ofSource_render {source : Json} {t : Template} (hkeys : source.Distinct)
    (hshort : source.Short) (h : ofSource source = .ok t) (hexact : t.source.Exact) :
    ofSource (.str t.render) = .ok t := by
  obtain ⟨hsource, hdistinct, hshort⟩ := ofSource_ok hkeys hshort h
  have hread : Json.read t.render = .ok t.source := read_render ⟨hdistinct, hshort, hexact⟩
  simp only [ofSource, text?, ofText, hread, hsource]

end Template

namespace Session

theorem step_set_of_ofSource {source : Json} {t : Template} (h : Template.ofSource source = .ok t)
    (s : Session) : s.step (.set source) = (s.keep t, .ok (.template t)) := by
  simp only [step, h, accept]

theorem ofSource_of_step_set {source : Json} {s : Session} {t : Template}
    (h : (s.step (.set source)).2 = .ok (.template t)) : Template.ofSource source = .ok t := by
  cases hs : Template.ofSource source with
  | error f => simp [step, hs, accept] at h
  | ok u =>
      simp only [step, hs, accept, Except.ok.injEq, Answer.template.injEq] at h
      rw [h]

/-- What an evaluation answers depends on the template and the defaults alone. -/
theorem answer_evaluate_congr {s s' : Session} (htemplate : s'.template = s.template)
    (hdefaults : s'.defaults = s.defaults) (x : ContextSource) (name : String) :
    (s'.step (.evaluate x name)).2 = (s.step (.evaluate x name)).2 := by
  have hin : s'.evaluateIn = s.evaluateIn := by
    funext c
    simp only [evaluateIn, htemplate, hdefaults]
  have hevaluate : s'.evaluate x = s.evaluate x := by
    cases x <;> simp only [evaluate, hin]
  cases h : s.evaluate x <;> simp only [step, hevaluate, h, keepConfig]

/-- A session that has set a template writes a text. Every session that sets this text accepts
the same template, writes the same text, and evaluates with the same answers if it has the same
defaults. -/
theorem written_template_reopens {source : Json} {s : Session} {t : Template}
    (hkeys : source.Distinct) (hshort : source.Short)
    (haccepted : (s.step (.set source)).2 = .ok (.template t)) (hexact : t.source.Exact) :
    ∃ text, ((s.step (.set source)).1.step .write).2 = .ok (.text text) ∧
      ∀ s' : Session,
        (s'.step (.set (.str text))).2 = .ok (.template t) ∧
        ((s'.step (.set (.str text))).1.step .write).2 = .ok (.text text) ∧
        (s'.defaults = s.defaults → ∀ x name,
          ((s'.step (.set (.str text))).1.step (.evaluate x name)).2 =
            ((s.step (.set source)).1.step (.evaluate x name)).2) := by
  have hsource := ofSource_of_step_set haccepted
  have hagain := Template.ofSource_render hkeys hshort hsource hexact
  refine ⟨t.render, by rw [step_set_of_ofSource hsource]; rfl, fun s' => ?_⟩
  rw [step_set_of_ofSource hagain, step_set_of_ofSource hsource]
  exact ⟨rfl, rfl, fun hdefaults => answer_evaluate_congr rfl hdefaults⟩

/-- A template with a character beyond the first 65536, a long integer, the number nearest to a
tenth and what is not a number. -/
def ornate : Json :=
  .obj [("parameters", .obj [("p😀", .obj [("defaultValue",
      .obj [("value", .float (.finite false 7205759403792794 (-56)))])])]),
    ("version", .int 123456789012345678901234567890), ("etag", .str "é\n"), ("note", .float .nan)]

/-- The template is written and set again in a session that holds another one. -/
theorem ornate_reopens :
    ∃ t text, ((empty [] none).step (.set ornate)).2 = .ok (.template t) ∧
      (((empty [] none).step (.set ornate)).1.step .write).2 = .ok (.text text) ∧
      (((empty [] none).keep t).step (.set (.str text))).2 = .ok (.template t) := by
  have hkeys : ornate.Distinct := by
    simp [ornate, Json.distinct_obj_iff, Json.Distinct.str, Json.Distinct.float, Json.Distinct.int]
  have hshort : ornate.Short := by
    intro n hn
    simp only [ornate, Json.scalars, Json.memberScalars] at hn
    obtain rfl : n = 123456789012345678901234567890 := by simpa using hn
    decide +kernel
  have hexact : ornate.Exact := by
    intro x hx
    simp only [ornate, Json.scalars, Json.memberScalars] at hx
    obtain rfl | rfl : x = .finite false 7205759403792794 (-56) ∨ x = .nan := by simpa using hx
    · unfold Binary64.ReadsBack
      decide +kernel
    · unfold Binary64.ReadsBack
      decide +kernel
  obtain ⟨text, hwrite, hs⟩ := written_template_reopens (s := empty [] none) hkeys hshort rfl hexact
  exact ⟨_, text, rfl, hwrite, (hs _).1⟩

end Session

end Rollout
