import Mathlib.Data.List.Forall2
import Rollout.Proofs.Json.Legible
import Rollout.Proofs.Signal.Relation
import Rollout.Proofs.Text.Trim

/-!
# Comparisons of texts

A signal contains a target when the target occurs in its text, and it equals a target when the two
have the same core without blanks around it. It is enough that one of the targets is found, so the
targets count as a set. That the signal lacks the targets is the opposite of containing one of them,
as long as there is something to compare; otherwise neither holds.
-/

namespace Rollout.Signal

open Text

/-- An answer is given, and it says whether a proposition is true. -/
def Tells (answer : Except Fault Bool) (p : Prop) : Prop :=
  ∃ b, answer = .ok b ∧ (b = true ↔ p)

theorem Tells.eq_of_iff {answer answer' : Except Fault Bool} {p q : Prop} (h : Tells answer p)
    (h' : Tells answer' q) (hpq : p ↔ q) : answer = answer' := by
  obtain ⟨b, rfl, hb⟩ := h
  obtain ⟨b', rfl, hb'⟩ := h'
  have hbb' : b = b' := by
    rw [Bool.eq_iff_iff, hb, hb', hpq]
  rw [hbb']

/-- Two texts are the same without the blanks around them. -/
def SameCore (s t : List Char) : Prop := ∃ core, IsCore isBlank s core ∧ IsCore isBlank t core

theorem sameCore_iff (s t : List Char) : SameCore s t ↔ trim s = trim t := by
  simp only [SameCore, ← trimBoth_eq_iff, exists_eq_left']
  exact eq_comm

/-- One of the targets is found in a text. -/
def Finds (found : List Char → List Char → Prop) (text : List Char) (targets : List String) :
    Prop :=
  ∃ target ∈ targets, found target.toList text

/-- The comparisons that hold when one of the targets is found, with what finding it means. -/
inductive Searches : TextTest → (List Char → List Char → Prop) → Prop
  | contains : Searches .contains (· <:+: ·)
  | equals : Searches .equals SameCore

theorem any_iff {test : List Char → List Char → Bool} {found : List Char → List Char → Prop}
    (htest : ∀ s t, test s t = true ↔ found s t) (text : List Char) (targets : List String) :
    ((targets.map Json.str).any fun t => test t.display text) = true ↔
      Finds found text targets := by
  simp only [Finds, List.any_eq_true, List.mem_map, exists_exists_and_eq_and, Json.display_str,
    htest]

theorem containsAny_iff (text : List Char) (targets : List String) :
    containsAny text (targets.map .str) = true ↔ Finds (· <:+: ·) text targets :=
  any_iff occursIn_iff text targets

theorem Searches.tells {t : TextTest} {found : List Char → List Char → Prop} (ht : Searches t found)
    (text : List Char) (targets : List String) :
    Tells (compareTexts t text (targets.map .str)) (Finds found text targets) := by
  cases ht with
  | contains => exact ⟨_, rfl, containsAny_iff text targets⟩
  | equals =>
      have hcore (s t : List Char) : (trim s == trim t) = true ↔ SameCore s t := by
        rw [beq_iff_eq, sameCore_iff]
      exact ⟨_, rfl, any_iff hcore text targets⟩

theorem tells_lacks (text : List Char) (targets : List String) :
    Tells (compareTexts .lacks text (targets.map .str)) (¬ Finds (· <:+: ·) text targets) := by
  refine ⟨_, rfl, ?_⟩
  rw [← containsAny_iff, Bool.not_eq_true', Bool.not_eq_true]

/-! ## Targets -/

section Targets

variable {text text' : List Char} {targets others : List String}

theorem finds_append {found : List Char → List Char → Prop} :
    Finds found text (targets ++ others) ↔ Finds found text targets ∨ Finds found text others := by
  simp only [Finds, List.mem_append, or_and_right, exists_or]

/-- Blanks around a text do not change which targets it equals. -/
theorem finds_of_surrounds (htext : Surrounds isBlank text text')
    (htargets : List.Forall₂ (fun s t => Surrounds isBlank s.toList t.toList) targets others) :
    Finds SameCore text' others ↔ Finds SameCore text targets := by
  induction htargets with
  | nil => simp [Finds]
  | @cons target other targets others h hrest ih =>
      have hfirst : SameCore other.toList text' ↔ SameCore target.toList text := by
        rw [sameCore_iff, sameCore_iff, trim, trim, h.trimBoth_eq, htext.trimBoth_eq]
        rfl
      simp only [Finds, List.exists_mem_cons_iff, hfirst] at ih ⊢
      rw [ih]

/-- A target without the blanks around it. -/
def stripped (target : String) : String := String.ofList (trim target.toList)

/-- A text that equals a target has the target in it, once the blanks around the target are left
out. -/
theorem Finds.contains_stripped (h : Finds SameCore text targets) :
    Finds (· <:+: ·) text (targets.map stripped) := by
  obtain ⟨target, hmem, core, htarget, htext⟩ := h
  refine ⟨stripped target, List.mem_map_of_mem hmem, ?_⟩
  have hcore : trim target.toList = core := trimBoth_of_isCore htarget
  rw [stripped, String.toList_ofList, hcore]
  exact htext.surrounds.isInfix

end Targets

/-! ## Operators -/

/-- A comparison of a signal as a text. -/
def Rule.searching (t : TextTest) (key : String) (targets : List String) : Rule :=
  { operator := some (.text t), key := some key, targets := targets }

namespace Rule

variable {c : Context} {key : String} {actual : Json} {text : List Char} {targets : List String}
  {found : List Char → List Char → Prop} {t : TextTest}

theorem holds_searching (hc : c.Presents key actual) (htext : actual.HasText text)
    (hne : targets ≠ []) (t : TextTest) :
    (searching t key targets).holds c = compareTexts t text (targets.map .str) := by
  obtain ⟨target, rest, rfl⟩ := List.exists_cons_of_ne_nil hne
  rw [← htext.display_eq]
  exact holds_asking_of_presents hc (.text t) target rest

theorem holds_searching_nil (c : Context) (t : TextTest) (key : String) :
    (searching t key []).holds c = .ok false :=
  holds_of_lacks (.inl rfl)

theorem tells_searching (ht : Searches t found) (hc : c.Presents key actual)
    (htext : actual.HasText text) (hne : targets ≠ []) :
    Tells ((searching t key targets).holds c) (Finds found text targets) := by
  rw [holds_searching hc htext hne]
  exact ht.tells text targets

theorem tells_searching_lacks (hc : c.Presents key actual) (htext : actual.HasText text)
    (hne : targets ≠ []) :
    Tells ((searching .lacks key targets).holds c) (¬ Finds (· <:+: ·) text targets) := by
  rw [holds_searching hc htext hne]
  exact tells_lacks text targets

/-- A comparison that searches holds when a target is found; of no targets, none is. -/
theorem holds_searching_iff (ht : Searches t found) (hc : c.Presents key actual)
    (htext : actual.HasText text) (targets : List String) :
    (searching t key targets).holds c = .ok true ↔ Finds found text targets := by
  by_cases hne : targets = []
  · subst hne
    simp [holds_searching_nil, Finds]
  · obtain ⟨b, hb, hiff⟩ := tells_searching ht hc htext hne
    rw [hb, Except.ok.injEq, hiff]

/-- The targets count as a set. -/
theorem holds_searching_congr (hc : c.Presents key actual) (htext : actual.HasText text)
    (hne : targets ≠ []) {others : List String}
    (hsame : ∀ target, target ∈ others ↔ target ∈ targets) (ht : t ≠ .matchesPattern) :
    (searching t key others).holds c = (searching t key targets).holds c := by
  have hothers : others ≠ [] := by
    obtain ⟨target, hmem⟩ := List.exists_mem_of_ne_nil targets hne
    exact List.ne_nil_of_mem ((hsame target).mpr hmem)
  have hfinds (found : List Char → List Char → Prop) :
      Finds found text others ↔ Finds found text targets := by
    simp only [Finds, hsame]
  have hsearches {found : List Char → List Char → Prop} (h : Searches t found) :
      (searching t key others).holds c = (searching t key targets).holds c :=
    (tells_searching h hc htext hothers).eq_of_iff (tells_searching h hc htext hne) (hfinds found)
  cases t with
  | contains => exact hsearches .contains
  | lacks =>
      apply (tells_searching_lacks hc htext hothers).eq_of_iff
        (tells_searching_lacks hc htext hne)
      exact not_congr (hfinds _)
  | equals => exact hsearches .equals
  | matchesPattern => exact absurd rfl ht

end Rule

open Rule

/-- The operators on texts search for their targets in the text of a signal. A signal contains
targets when one of them is a part of it, lacks them when none is, and equals them when one has the
same core without blanks. So the order and the repetition of targets do not count, two lists of
targets are searched as one, blanks around signal and targets do not change what equals what, and
what equals a target contains it without its blanks. Without a key, targets or a signal none of the
operators holds. -/
theorem text_operators_search {c : Context} {key : String} {actual : Json} {text : List Char}
    (hc : c.Presents key actual) (htext : actual.HasText text) {targets : List String}
    (hne : targets ≠ []) :
    Tells ((searching .contains key targets).holds c)
        (∃ target ∈ targets, target.toList <:+: text) ∧
      Tells ((searching .lacks key targets).holds c)
        (¬ ∃ target ∈ targets, target.toList <:+: text) ∧
      Tells ((searching .equals key targets).holds c)
        (∃ target ∈ targets, ∃ core,
          IsCore isBlank target.toList core ∧ IsCore isBlank text core) ∧
      (∀ others, (∀ target, target ∈ others ↔ target ∈ targets) → ∀ t, t ≠ .matchesPattern →
        (searching t key others).holds c = (searching t key targets).holds c) ∧
      (∀ others, ∀ t ∈ [TextTest.contains, .equals],
        Tells ((searching t key (targets ++ others)).holds c)
          ((searching t key targets).holds c = .ok true ∨
            (searching t key others).holds c = .ok true)) ∧
      (∀ c' key' actual' text' others, c'.Presents key' actual' → actual'.HasText text' →
        Surrounds isBlank text text' →
          List.Forall₂ (fun s t => Surrounds isBlank s.toList t.toList) targets others →
            (searching .equals key' others).holds c' = (searching .equals key targets).holds c) ∧
      ((searching .equals key targets).holds c = .ok true →
        (searching .contains key (targets.map stripped)).holds c = .ok true) ∧
      ∀ (c' : Context) (rule : Rule), rule.Lacks c' → rule.holds c' = .ok false := by
  refine ⟨tells_searching .contains hc htext hne, tells_searching_lacks hc htext hne,
    tells_searching .equals hc htext hne, ?_, ?_, ?_, ?_, ?_⟩
  · intro others hsame t ht
    exact holds_searching_congr hc htext hne hsame ht
  · intro others t ht
    have happend : targets ++ others ≠ [] := List.append_ne_nil_of_left_ne_nil hne others
    obtain ⟨found, hsearches⟩ : ∃ found, Searches t found := by
      rw [List.mem_pair] at ht
      rcases ht with rfl | rfl
      · exact ⟨_, .contains⟩
      · exact ⟨_, .equals⟩
    rw [holds_searching_iff hsearches hc htext, holds_searching_iff hsearches hc htext,
      ← finds_append]
    exact tells_searching hsearches hc htext happend
  · intro c' key' actual' text' others hc' htext' hblanks htargets
    have hothers : others ≠ [] := by
      rw [← List.length_pos_iff, ← htargets.length_eq, List.length_pos_iff]
      exact hne
    apply (tells_searching .equals hc' htext' hothers).eq_of_iff
      (tells_searching .equals hc htext hne)
    exact finds_of_surrounds hblanks htargets
  · intro h
    rw [holds_searching_iff .equals hc htext] at h
    rw [holds_searching_iff .contains hc htext]
    exact h.contains_stripped
  · intro c' rule hlacks
    exact holds_of_lacks hlacks

/-- A signal that is no text, but is displayed as one. -/
def tags : Json := .arr [.str "new user", .int 42]

/-- A client with tags. -/
def tagged : Context := { id := none, signals := .ofMembers [("tags", tags)] }

theorem tagged_presents : tagged.Presents "tags" tags where
  key_ne := by decide
  get_eq := rfl
  present := nofun

theorem tags_hasText : tags.HasText "['new user', 42]".toList where
  short := by
    intro n hn
    obtain rfl : n = 42 := by simpa [tags, Json.scalars, Json.itemScalars] using hn
    decide +kernel
  plain := by rintro t ⟨⟩
  display_eq := rfl

/-- The displayed tags contain one of two targets, in any order of them, so they do not lack these
targets; they equal their own text with blanks around it; and they do not lack no targets. -/
theorem tagged_client_is_found :
    (searching .contains "tags" ["beta", "42"]).holds tagged = .ok true ∧
      (searching .lacks "tags" ["42", "beta", "42"]).holds tagged = .ok false ∧
      (searching .equals "tags" ["\u2003['new user', 42]\n"]).holds tagged = .ok true ∧
      (searching .lacks "tags" []).holds tagged = .ok false := by
  have hpart : "42".toList <:+: "['new user', 42]".toList :=
    ⟨"['new user', ".toList, "]".toList, rfl⟩
  have hfound : ∃ target ∈ ["beta", "42"], target.toList <:+: "['new user', 42]".toList :=
    ⟨"42", by decide, hpart⟩
  have htwo : ["beta", "42"] ≠ [] := by decide
  have hone : ["['new user', 42]"] ≠ [] := by decide
  obtain ⟨⟨b, hcontains, hb⟩, ⟨b', hlacks, hb'⟩, _, hset, _, _, _, hnone⟩ :=
    text_operators_search tagged_presents tags_hasText htwo
  obtain ⟨_, _, ⟨b'', hequals, hb''⟩, _, _, hblanks, _⟩ :=
    text_operators_search tagged_presents tags_hasText hone
  refine ⟨?_, ?_, ?_, ?_⟩
  · rw [hcontains, hb.mpr hfound]
  · have hsame : ∀ target, target ∈ ["42", "beta", "42"] ↔ target ∈ ["beta", "42"] := by
      intro target
      simp only [List.mem_cons, List.not_mem_nil, or_false]
      rw [or_left_comm, or_self]
    rw [hset _ hsame .lacks (by decide), hlacks, Bool.eq_false_iff.mpr fun h => hb'.mp h hfound]
  · have hequal : b'' = true := by
      have hcore := isCore_trimBoth isBlank "['new user', 42]".toList
      exact hb''.mpr ⟨_, List.mem_singleton_self _, _, hcore, hcore⟩
    have hpadded : Surrounds isBlank "['new user', 42]".toList "\u2003['new user', 42]\n".toList :=
      ⟨['\u2003'], ['\n'], List.forall_mem_singleton.mpr rfl, List.forall_mem_singleton.mpr rfl, rfl⟩
    rw [hblanks tagged "tags" tags _ _ tagged_presents tags_hasText (.refl isBlank _)
      (.cons hpadded .nil), hequals, hequal]
  · exact hnone tagged _ (.inl rfl)

end Rollout.Signal
