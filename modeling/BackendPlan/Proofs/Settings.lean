import BackendPlan.Proofs.Registry.Holdings
import BackendPlan.Proofs.Text.Case

/-!
# Proofs/Settings — settings read from an environment are always usable

An environment is a table of arbitrary texts, and every text means something: what is blank counts
as not set, and the white space around a text does not count.

    variable  —`value?`→  text, tidy if there is one  —→  a word that says yes, a stage, a region

* `isTruthy_iff` — **the words that say yes**, in any ASCII case and no other way.
* `value?_of_not_blank`, `value?_padded` — the value of a variable, and what makes no difference to
  it.
* `Session.declares_by_settings` — what an application gets that names no stage or no region.
* `Settings.ofLookup_usable` — **settings read from an environment are always usable**.
-/

namespace BackendPlan

/-- **The text is fit to be a name**: it is not blank, and has no white space around it. -/
structure Text.IsTidy (s : String) : Prop where
  not_blank : isBlankText s = false
  trim_eq : trim s = s

theorem Text.isTidy_trim {s : String} (h : isBlankText s = false) : IsTidy (trim s) where
  not_blank := (isBlankText_trim s).trans h
  trim_eq := trim_trim s

attribute [ext] Settings

namespace Settings

/-! ## Words that say yes -/

/-- **A word says yes exactly if it is one of the four but for ASCII case** — none of them has an
`i` or a `k`, so that no other text becomes one of them in lower case. -/
theorem isTruthy_iff {word : String} :
    isTruthy word = true ↔
      ∃ yes ∈ ["1", "true", "yes", "on"], Text.equalsIgnoringAsciiCase word yes = true := by
  have hyes : ∀ yes ∈ ["1", "true", "yes", "on"],
      yes.toList.map Char.toLower = yes.toList ∧
        ∀ d ∈ yes.toList, d.toNat < 0x80 ∧ d ≠ 'i' ∧ d ≠ 'k' := by simp
  have hiff : ∀ yes ∈ ["1", "true", "yes", "on"],
      Text.lower word = yes ↔ Text.equalsIgnoringAsciiCase word yes = true := by
    intro yes hmem
    obtain ⟨hlower, hletters⟩ := hyes yes hmem
    rw [Text.lower_eq_iff hletters, Text.equalsIgnoringAsciiCase_iff, hlower, ← String.toList_inj,
      String.toLower, String.toList_map]
  rw [isTruthy, List.contains_iff_mem]
  constructor
  · intro hmem
    exact ⟨_, hmem, (hiff _ hmem).1 rfl⟩
  · rintro ⟨yes, hmem, heq⟩
    rwa [(hiff yes hmem).2 heq]

/-- **The shape of a final sigma makes no difference to the four words** — `isTruthy` goes by
`Text.lower`, and would say the same of any lower case in which a sigma is written as its place in
the word asks. -/
theorem isTruthy_iff_of_lowersTo {word lowered : String} (h : Text.LowersTo word lowered) :
    isTruthy word = true ↔ lowered ∈ ["1", "true", "yes", "on"] := by
  rw [isTruthy, List.contains_iff_mem]
  have hascii : ∀ yes ∈ ["1", "true", "yes", "on"], ∀ d ∈ yes.toList, d.toNat < 0x80 := by simp
  constructor
  · intro hmem
    exact (h.eq_iff (hascii _ hmem)).2 rfl ▸ hmem
  · intro hmem
    exact (h.eq_iff (hascii _ hmem)).1 rfl ▸ hmem

/-- White space is no word — trimmed, it is the empty text. -/
theorem isTruthy_empty : isTruthy "" = false := by
  rw [Bool.eq_false_iff, Ne, isTruthy_iff]
  decide

/-! ## Values of variables -/

variable {lookup : String → Option String} {name given : String}

theorem value?_of_none (h : lookup name = none) : value? lookup name = none := by
  rw [value?, h, Option.map_none, Option.filter_none]

theorem value?_of_blank (h : lookup name = some given) (hblank : Text.isBlankText given = true) :
    value? lookup name = none := by
  rw [value?, h, Option.map_some, Text.trim_eq_empty_iff.2 hblank]
  exact Option.filter_some_neg (by decide)

/-- **A variable that is not blank has its text as `value?`**, without the white space around it. -/
theorem value?_of_not_blank (h : lookup name = some given)
    (hblank : Text.isBlankText given = false) :
    value? lookup name = some (Text.trim given) := by
  have hne : Text.trim given ≠ "" := fun hempty =>
    Bool.false_ne_true (hblank.symm.trans (Text.trim_eq_empty_iff.1 hempty))
  rw [value?, h, Option.map_some]
  exact Option.filter_some_pos (decide_eq_true hne)

/-- **White space around the texts of the variables makes no difference** to `value?`: neither to
the value nor to whether there is one. -/
theorem value?_padded {front back : String → String}
    (hfront : ∀ name, Text.isBlankText (front name) = true)
    (hback : ∀ name, Text.isBlankText (back name) = true) (lookup : String → Option String) :
    value? (fun name => (lookup name).map fun v => front name ++ v ++ back name) =
      value? lookup := by
  funext name
  rw [value?, value?, Option.map_map]
  congr 2
  exact funext fun v => Text.trim_append_of_isBlankText (hfront name) (hback name) v

/-! ## Settings in an environment -/

/-- **The text is read from the variable**: it is the variable's without the white space around it,
and `default` if the variable is blank or not set. -/
def Reads (lookup : String → Option String) (name default text : String) : Prop :=
  match lookup name with
  | some given => text = if Text.isBlankText given then default else Text.trim given
  | none => text = default

theorem reads_getD (lookup : String → Option String) (name default : String) :
    Reads lookup name default ((value? lookup name).getD default) := by
  rw [Reads]
  split
  · next given h =>
    split
    · next hblank => rw [value?_of_blank h hblank, Option.getD_none]
    · next hblank => rw [value?_of_not_blank h (Bool.eq_false_iff.2 hblank), Option.getD_some]
  · next h => rw [value?_of_none h, Option.getD_none]

/-- What is read is tidy if the `default` is — a value has been trimmed and is not blank. -/
theorem Reads.isTidy {default text : String} (h : Reads lookup name default text)
    (hdefault : Text.IsTidy default) : Text.IsTidy text := by
  rw [Reads] at h
  split at h
  · split at h
    · exact h ▸ hdefault
    · next hblank => exact h ▸ Text.isTidy_trim (Bool.eq_false_iff.2 hblank)
  · exact h ▸ hdefault

/-- A text that is `IsTidy` is read as it is — trimming finds nothing to take off. -/
theorem Reads.eq_of_isTidy {default text : String} (h : Reads lookup name default text)
    (hlookup : lookup name = some given) (hgiven : Text.IsTidy given) : text = given := by
  rw [Reads, hlookup] at h
  rw [h, hgiven.not_blank, if_neg Bool.false_ne_true, hgiven.trim_eq]

/-- **The settings are what the variables say**: field by field, with the name and the default of
each. -/
structure ReadFrom (lookup : String → Option String) (s : Settings) : Prop where
  /-- Strictness is switched on by one of four words, in any ASCII case and with white space around
  it. -/
  strict : s.strict = true ↔ ∃ v, lookup strictVariable = some v ∧
    ∃ yes ∈ ["1", "true", "yes", "on"], Text.equalsIgnoringAsciiCase (Text.trim v) yes = true
  stage : Reads lookup stageVariable "dev" s.defaultStage
  region : Reads lookup regionVariable "us-east-1" s.defaultRegion

theorem readFrom_ofLookup (lookup : String → Option String) :
    ReadFrom lookup (ofLookup lookup) where
  strict := by
    have hstrict : (ofLookup lookup).strict = true ↔
        ∃ v, lookup strictVariable = some v ∧ isTruthy (Text.trim v) = true := by
      rw [ofLookup]
      cases h : lookup strictVariable with
      | none => simp [value?_of_none h]
      | some v =>
        cases hblank : Text.isBlankText v with
        | true => simp [value?_of_blank h hblank, Text.trim_eq_empty_iff.2 hblank, isTruthy_empty]
        | false => simp [value?_of_not_blank h hblank]
    simpa only [isTruthy_iff] using hstrict
  stage := reads_getD lookup stageVariable "dev"
  region := reads_getD lookup regionVariable "us-east-1"

/-- **The settings are fit for applications that name no stage and no region**: both texts are tidy
(`IsTidy`). -/
structure Usable (s : Settings) : Prop where
  stage : Text.IsTidy s.defaultStage
  region : Text.IsTidy s.defaultRegion

theorem ReadFrom.usable {s : Settings} (h : ReadFrom lookup s) : s.Usable where
  stage := h.stage.isTidy ⟨by decide, by decide⟩
  region := h.region.isTidy ⟨by decide, by decide⟩

/-- The variables spell the settings out. -/
structure SpelledBy (lookup : String → Option String) (s : Settings) : Prop where
  strict : lookup strictVariable = some (if s.strict then "true" else "false")
  stage : lookup stageVariable = some s.defaultStage
  region : lookup regionVariable = some s.defaultRegion

/-- **Settings that are spelled out are read back** — by `Reads.eq_of_isTidy`, and the flag by its
word. -/
theorem SpelledBy.ofLookup_eq {s : Settings} (h : SpelledBy lookup s) (hs : s.Usable) :
    ofLookup lookup = s := by
  have hread := readFrom_ofLookup lookup
  have hstrict : (ofLookup lookup).strict = s.strict := by
    rw [Bool.eq_iff_iff, hread.strict, h.strict]
    cases s.strict <;> decide
  have hstage := hread.stage.eq_of_isTidy h.stage hs.stage
  have hregion := hread.region.eq_of_isTidy h.region hs.region
  exact Settings.ext hstrict hstage hregion

end Settings

/-! ## Applications -/

namespace Session

variable {settings : List Settings} {i : Nat} {s : Settings}

/-- The registry with given settings is there after every run, and has them — no operation writes
`settings`. -/
theorem exists_registry_run (hs : settings[i]? = some s) (requests : List Request) :
    ∃ registry, ((start settings).run requests).2.registries[i]? = some registry ∧
      registry.settings = s := by
  have hstart : (start settings).registries[i]? = some (Registry.withSettings s) := by
    rw [start, List.getElem?_toArray, List.getElem?_map, hs, Option.map_some]
  let P : List Exchange → Registry → Prop := fun _ r => r.settings = s
  have hnew : P [] (Registry.withSettings s) := rfl
  exact registry_run (fun _ b op h => (RegistryOp.settings_run op b).trans h) requests hstart hnew

/-- **What an application gets from the settings** — the stage if it names none, the region if it
names none; and it is refused by the rule or declared. -/
theorem declares_by_settings (hs : settings[i]? = some s) (requests : List Request)
    (config : AppConfig) :
    let last := ((start settings).run requests).2
    let reply := (last.step (.on i (.declareApplication config))).1
    ∃ registry, last.registries[i]? = some registry ∧
      match (RegistryOp.declareApplication config).refusal? registry with
      | some cause => reply = .on (.refused cause)
      | none => ∃ app, reply = .on (.application app) ∧
        (config.stage = none → app.stage = s.defaultStage) ∧
        (config.region = none → app.region = s.defaultRegion) := by
  intro last reply
  obtain ⟨registry, hr, hown⟩ := exists_registry_run hs requests
  have hreply : reply = .on ((RegistryOp.declareApplication config).run
    ⟨registry, last.workspace⟩).1 :=
    congrArg Prod.fst (step_on hr _)
  have hrule := RegistryOp.run_of_refusal? (b := ⟨registry, last.workspace⟩) (indexed_run hr)
    (.declareApplication config)
  refine ⟨registry, hr, ?_⟩
  rw [hreply]
  split
  · next cause hrefusal =>
    rw [hrefusal] at hrule
    rw [hrule]
  · next hrefusal =>
    rw [hrefusal] at hrule
    generalize hout : ((RegistryOp.declareApplication config).run
      ⟨registry, last.workspace⟩).1 = out at hrule
    cases out with
    | application app =>
      obtain rfl := RegistryOp.eq_applicationOf hout
      refine ⟨_, rfl, fun hstage => ?_, fun hregion => ?_⟩
      · rw [Workbench.applicationOf, hstage, Option.getD_none, hown]
      · rw [Workbench.applicationOf, hregion, Option.getD_none, hown]
    | _ => exact hrule.elim

end Session

/-- **The settings are right for the environment**, in themselves (`ReadFrom`, `Usable`) and for
what is declared with them. -/
structure Settings.IsRightFor (lookup : String → Option String) (s : Settings) : Prop where
  /-- The settings are what the variables say. -/
  read : ReadFrom lookup s
  /-- Stage and region are not blank and have no white space around them. -/
  usable : s.Usable
  /-- White space around the texts makes no difference. -/
  padded : ∀ front back : String → String, (∀ name, Text.isBlankText (front name) = true) →
    (∀ name, Text.isBlankText (back name) = true) →
      ofLookup (fun name => (lookup name).map fun v => front name ++ v ++ back name) = s
  /-- The settings are read back where they are spelled out. -/
  read_back : ∀ again, SpelledBy again s → ofLookup again = s
  /-- After any run, an application that names no stage or no region gets the one of the registry's
  settings, unless it is refused. -/
  declares : ∀ (settings : List Settings) (i : Nat), settings[i]? = some s →
    ∀ (requests : List Request) (config : AppConfig),
      let last := ((Session.start settings).run requests).2
      let reply := (last.step (.on i (.declareApplication config))).1
      ∃ registry, last.registries[i]? = some registry ∧
        match (RegistryOp.declareApplication config).refusal? registry with
        | some cause => reply = .on (.refused cause)
        | none => ∃ app, reply = .on (.application app) ∧
          (config.stage = none → app.stage = s.defaultStage) ∧
          (config.region = none → app.region = s.defaultRegion)

/-- **Settings read from an environment are always usable.**  For every environment, whatever its
texts, they are right for it: as the variables say, never blank, the same with white space around
the texts, read back where they are spelled out, and those of every application that names none of
its own. -/
theorem Settings.ofLookup_usable (lookup : String → Option String) :
    IsRightFor lookup (ofLookup lookup) where
  read := readFrom_ofLookup lookup
  usable := (readFrom_ofLookup lookup).usable
  padded front back hfront hback := by rw [ofLookup, ofLookup, value?_padded hfront hback]
  read_back again h := h.ofLookup_eq (readFrom_ofLookup lookup).usable
  declares settings i hs requests config := Session.declares_by_settings hs requests config

/-- Of three variables, `" ON\t"` is truthy, one has an odd white space, and one is blank. -/
theorem Settings.ofLookup_usable_of_padded :
    let lookup : String → Option String := fun name =>
      if name = strictVariable then some " ON\t" else
        if name = stageVariable then some "\u00a0prod " else some "  "
    let s := ofLookup lookup
    s = { strict := true, defaultStage := "prod", defaultRegion := "us-east-1" } ∧ s.Usable ∧
      ∃ app, ((Session.start [s]).step (.on 0 (.declareApplication { name := "shop" }))).1 =
        .on (.application app) ∧ app.stage = "prod" ∧ app.region = "us-east-1" := by
  intro lookup s
  obtain ⟨hread, husable, -, -, happs⟩ : IsRightFor lookup s := ofLookup_usable lookup
  have hstrict : s.strict = true := hread.strict.2 ⟨" ON\t", rfl, "on", by simp, by decide⟩
  have hstage : s.defaultStage = "prod" := by
    have hgiven : lookup stageVariable = some "\u00a0prod " := rfl
    have hstage := hread.stage
    rw [Reads, hgiven] at hstage
    exact hstage.trans (by decide)
  have hregion : s.defaultRegion = "us-east-1" := by
    have hgiven : lookup regionVariable = some "  " := rfl
    have hregion := hread.region
    rw [Reads, hgiven] at hregion
    exact hregion.trans (by decide)
  obtain ⟨registry, hr, happ⟩ := happs [s] 0 rfl [] { name := "shop" }
  obtain rfl : Registry.withSettings s = registry := Option.some.inj hr
  have hrefusal : (RegistryOp.declareApplication { name := "shop" }).refusal?
      (Registry.withSettings s) = none := by
    rw [RegistryOp.refusal?, RegistryOp.slot?, Option.bind_some, Registry.collision?]
    have hmissing : (RegistryOp.declareApplication { name := "shop" }).missing? = none := by decide
    rw [hmissing, Option.none_or]
    exact ite_self _
  rw [hrefusal] at happ
  obtain ⟨app, hreply, happstage, happregion⟩ := happ
  exact ⟨Settings.ext hstrict hstage hregion, husable, app, hreply,
    (happstage rfl).trans hstage, (happregion rfl).trans hregion⟩

end BackendPlan
