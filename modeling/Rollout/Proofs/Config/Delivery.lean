import Rollout.Proofs.Config.Resolution
import Rollout.Proofs.Config.Shape
import Rollout.Proofs.Json.RoundTrip
import Rollout.Proofs.Template.Irrelevance

/-!
# What a client sees of a configuration

A response is read from its own text, so a client is sent the keys of a configuration in their order
and the text of every value. A client that declares them as its defaults evaluates an empty template
to a configuration that answers like the one on the server, whatever its values are read as.

## Implementation notes

Two values answer alike when they have the same content. The two configurations do not have the
same values: on the client every value comes from the defaults. Their contents are texts on both
sides, so no answer can be a fault.
-/

namespace Rollout

open Entries

/-! ## Answers of a value -/

namespace Value

variable {v w : Value}

/-- Two values give the same answers, whatever they are read as. -/
structure AnswersLike (v w : Value) : Prop where
  text : v.text = w.text
  truth : v.truth = w.truth
  number : v.number = w.number
  integer : v.integer = w.integer
  float : v.float = w.float

/-- A value can be read as a number of each kind. -/
structure Answers (v : Value) : Prop where
  number : ∃ n, v.number = .ok n
  integer : ∃ n, v.integer = .ok n
  float : ∃ x, v.float = .ok x

theorem answersLike_of_content_eq (h : v.content = w.content) : AnswersLike v w := by
  have hnumber : v.number = w.number := by rw [number, h, number]
  constructor
  · rw [text, h, text]
  · rw [truth, h, truth]
  · exact hnumber
  · rw [integer, h, integer]
  · rw [float, hnumber, float]

theorem number_of_text {text : String} (h : v.content = .str text) : ∃ n, v.number = .ok n := by
  rw [number, h]
  simp only [Json.toFloat?]
  cases Numeral.readFloat text.toList with
  | none => exact ⟨_, rfl⟩
  | some x => exact ⟨_, rfl⟩

theorem integer_of_text {text : String} (h : v.content = .str text) : ∃ n, v.integer = .ok n := by
  rw [integer, h]
  simp only [Json.toInt?]
  cases Numeral.readInt text.toList with
  | error e => exact ⟨_, rfl⟩
  | ok n => exact ⟨_, rfl⟩

theorem float_of_number {n : Number} (h : v.number = .ok n) : ∃ x, v.float = .ok x := by
  rw [float, h]
  cases n with
  | int n => exact ⟨_, rfl⟩
  | float x => exact ⟨_, rfl⟩

/-- A value whose content is a text answers whatever it is read as. -/
theorem answers_of_text {text : String} (h : v.content = .str text) : v.Answers := by
  obtain ⟨n, hn⟩ := number_of_text h
  exact ⟨⟨n, hn⟩, integer_of_text h, float_of_number hn⟩

theorem content_of_isStored (h : Config.IsStored v) : v.content = .str v.text := by
  obtain ⟨text, rfl | rfl⟩ := h
  · simp [Value.text, ofText, Json.displayText]
  · simp [Value.text, ofText, Json.displayText]

end Value

/-! ## Responses -/

namespace Response

variable {config : Config}

/-- The members of a configuration as it is sent. -/
def sentMembers (config : Config) : List (String × Json) :=
  config.entries.map fun e => (e.1, .str e.2.text)

theorem toJson_ofConfig (config : Config) (draw : Nat) :
    (ofConfig config draw).toJson =
      .obj [("status", .int statusOk), ("e_tag", .str (drawnTag draw)),
        ("config", .obj (sentMembers config))] := rfl

theorem keys_sentMembers (config : Config) : keys (sentMembers config) = keys config.entries := by
  rw [sentMembers, keys, List.map_map]
  rfl

theorem distinct_toJson (h : (keys config.entries).Nodup) (draw : Nat) :
    (ofConfig config draw).toJson.Distinct := by
  have hsent : (Json.obj (sentMembers config)).Distinct := by
    rw [Json.distinct_obj_iff, keys_sentMembers]
    refine ⟨h, ?_⟩
    intro e he
    obtain ⟨_, _, rfl⟩ := List.mem_map.1 he
    exact .str _
  rw [toJson_ofConfig, Json.distinct_obj_iff]
  refine ⟨by simp, ?_⟩
  simp only [List.forall_mem_cons]
  exact ⟨.int _, .str _, hsent, by simp⟩

/-- Apart from the status, a response is made of texts. -/
theorem scalars_toJson (config : Config) (draw : Nat) :
    ∀ k ∈ (ofConfig config draw).toJson.scalars, k = .int statusOk ∨ ∃ text, k = .str text := by
  intro k hk
  rw [toJson_ofConfig] at hk
  simp only [Json.scalars, Json.memberScalars, Json.memberScalars_eq_flatMap, sentMembers,
    List.mem_append, List.mem_singleton, List.mem_flatMap, List.mem_map, List.append_nil] at hk
  rcases hk with rfl | rfl | ⟨_, ⟨e, _, rfl⟩, htext⟩
  · exact .inl rfl
  · exact .inr ⟨_, rfl⟩
  · exact .inr ⟨_, List.mem_singleton.1 htext⟩

theorem legible_toJson (h : (keys config.entries).Nodup) (draw : Nat) :
    (ofConfig config draw).toJson.Legible := by
  refine ⟨distinct_toJson h draw, ?_, ?_⟩
  · intro n hn
    rcases scalars_toJson config draw _ hn with hstatus | ⟨text, htext⟩
    · cases hstatus
      decide +kernel
    · cases htext
  · intro x hx
    rcases scalars_toJson config draw _ hx with hstatus | ⟨text, htext⟩
    · cases hstatus
    · cases htext

end Response

/-! ## Configurations of clients -/

namespace Config

variable {config : Config}

/-- Every value that a configuration gives is a text. -/
theorem content_get (h : ∀ e ∈ config.entries, IsStored e.2) (key : String) :
    (config.get key).content = .str (config.get key).text := by
  rw [get]
  cases hf : find? config.entries key with
  | none => rfl
  | some v => exact Value.content_of_isStored (h _ (mem_of_find? hf))

/-- The configuration of the sent texts. -/
def received (config : Config) : Config := ofDefaults (.ofMembers (Response.sentMembers config))

theorem keys_received (config : Config) : keys config.received.entries = keys config.entries := by
  rw [received, keys_ofDefaults, Response.keys_sentMembers]

theorem content_get_received (h : ∀ e ∈ config.entries, IsStored e.2) (key : String) :
    (config.received.get key).content = (config.get key).content := by
  rw [content_get h, get, get, received, find?_ofDefaults, Response.sentMembers,
    find?_map fun v : Value => Json.str v.text]
  cases find? config.entries key with
  | none => rfl
  | some v => simp [Defaults.write, Value.ofText, Json.displayText]

end Config

namespace Session

/-- An empty template gives every context the declared defaults. -/
theorem start_empty (members : List (String × Json)) {source : Json}
    (h : Template.held source = .ok (.obj [])) :
    ∃ s, start (.obj members) source none = .ok s ∧
      ∀ y c, y.made = .ok c → s.evaluate y = .ok (Config.ofDefaults (.ofMembers members)) := by
  obtain ⟨t, ht, hconditions, hparameters⟩ : ∃ t, Template.ofSource source = .ok t ∧
      t.conditions = [] ∧ t.parameters = [] := by
    rw [Template.ofSource_of_held h]
    exact ⟨_, rfl, rfl, rfl⟩
  refine ⟨(empty (.ofMembers members) none).keep t, ?_, ?_⟩
  · unfold start
    simp only [Defaults.ofJson]
    split
    · cases h
    · rw [ht]
  · intro y c hmade
    rw [evaluate_of_made _ hmade]
    simp only [evaluateIn, keep, empty, Config.evaluate, Verdicts.ofConditions, hconditions,
      Verdicts.extend, hparameters, Config.putParameters]

/-- A response is read from its own text as it was sent: with the keys of the configuration in their
order and the texts of their values. A session that declares them as its defaults and has an empty
template evaluates every context to a configuration with the same keys in the same order, on which
every key is answered like on the original. All values of both can be read as numbers. -/
theorem client_sees_what_is_sent {s : Session} {x : ContextSource} {config : Config}
    (hd : (keys s.defaults).Nodup) (hconfig : s.evaluate x = .ok config) (draw : Nat) :
    ∃ received, Json.read (Response.ofConfig config draw).toJson.render = .ok received ∧
      received = (Response.ofConfig config draw).toJson ∧
      received.field "config" =
        .obj ((keys config.entries).map fun key => (key, .str (config.get key).text)) ∧
      (∀ key, (config.get key).Answers) ∧
      ∀ source, Template.held source = .ok (.obj []) →
        ∃ s', start (received.field "config") source none = .ok s' ∧
          ∀ y c, y.made = .ok c → ∃ config', s'.evaluate y = .ok config' ∧
            keys config'.entries = keys config.entries ∧
            ∀ key, (config'.get key).AnswersLike (config.get key) ∧
              (config'.get key).Answers := by
  obtain ⟨t, c, hevaluate⟩ := evaluated_of_evaluate hconfig
  have hk := Config.nodup_keys_of_evaluate hd hevaluate
  have hstored := Config.isStored_of_evaluate hevaluate
  refine ⟨_, Json.read_render (Response.legible_toJson hk draw), rfl, Config.sent_eq hk draw, ?_,
    ?_⟩
  · intro key
    exact Value.answers_of_text (Config.content_get hstored key)
  · intro source hempty
    obtain ⟨s', hs', hanswers⟩ := start_empty (Response.sentMembers config) hempty
    refine ⟨s', hs', ?_⟩
    intro y c' hmade
    refine ⟨config.received, hanswers y c' hmade, Config.keys_received config, ?_⟩
    intro key
    have hcontent := Config.content_get_received hstored key
    refine ⟨Value.answersLike_of_content_eq hcontent, ?_⟩
    exact Value.answers_of_text (hcontent.trans (Config.content_get hstored key))

/-- Defaults with a letter that is not plain, a character beyond the first 65536, a quotation mark,
the end of a line and a control character. -/
def decorated : Defaults := [("title", "é😀\"\n\x7f"), ("size", " 3 ")]

/-- A template that switches something on. -/
def switchedOn : Json :=
  .obj [("parameters", .obj [("on", .obj [("defaultValue", .obj [("value", .str "Yes")])])])]

/-- The client reads the same title, number and truth value. -/
theorem decorated_reaches_client :
    ∃ t config s' config', Template.ofSource switchedOn = .ok t ∧
      ((empty decorated none).keep t).evaluate (.flat .null) = .ok config ∧
      Json.read (Response.ofConfig config 7).toJson.render =
        .ok (Response.ofConfig config 7).toJson ∧
      start ((Response.ofConfig config 7).toJson.field "config") (.obj []) none = .ok s' ∧
      s'.evaluate (.flat .null) = .ok config' ∧
      keys config'.entries = ["title", "size", "on"] ∧
      (config'.get "title").text = "é😀\"\n\x7f" ∧ (config'.get "size").integer = .ok 3 ∧
      (config'.get "on").truth = true := by
  have hd : (keys decorated).Nodup := by decide
  obtain ⟨t, config, ht, hconfig, hkeys, htitle, hsize, hon⟩ :
      ∃ t config, Template.ofSource switchedOn = .ok t ∧
        ((empty decorated none).keep t).evaluate (.flat .null) = .ok config ∧
        keys config.entries = ["title", "size", "on"] ∧
        (config.get "title").text = "é😀\"\n\x7f" ∧ (config.get "size").integer = .ok 3 ∧
        (config.get "on").truth = true :=
    ⟨_, _, rfl, rfl, rfl, rfl, rfl, rfl⟩
  obtain ⟨_, hread, rfl, _, _, hclient⟩ := client_sees_what_is_sent hd hconfig 7
  obtain ⟨s', hs', hevaluates⟩ := hclient (.obj []) rfl
  obtain ⟨config', hconfig', hkeys', hanswers⟩ := hevaluates (.flat .null) _ rfl
  refine ⟨t, config, s', config', ht, hconfig, hread, hs', hconfig', hkeys'.trans hkeys, ?_, ?_, ?_⟩
  · rw [(hanswers "title").1.text, htitle]
  · rw [(hanswers "size").1.integer, hsize]
  · rw [(hanswers "on").1.truth, hon]

end Session

end Rollout
