import Mathlib.Data.List.Induction
import UriTemplate.Settings.Load

namespace UriTemplate

namespace Dictionary

variable {α : Type}

/-- All values that a name is given, from the first to the last. -/
def valuesOf (name : Text) (entries : Dictionary α) : List α :=
  entries.filterMap fun entry => if entry.1 = name then some entry.2 else none

/-- The last value that was inserted stays, and it hides what was there before. -/
theorem lookup_insertAll (dictionary entries : Dictionary α) (name : Text) :
    (dictionary.insertAll entries).lookup name =
      (entries.valuesOf name).getLast?.or (dictionary.lookup name) := by
  induction entries using List.reverseRecOn with
  | nil => rfl
  | append_singleton entries entry inductionHypothesis =>
      have step : dictionary.insertAll (entries ++ [entry]) =
          (dictionary.insertAll entries).insert entry.1 entry.2 := by
        rw [insertAll, List.foldl_append]
        rfl
      rw [step, valuesOf, List.filterMap_append]
      by_cases same : entry.1 = name
      · rw [← same, lookup_insert_self]
        simp
      · rw [lookup_insert_of_ne _ _ (Ne.symm same), inductionHypothesis]
        simp [same, valuesOf]

end Dictionary

namespace Layers

/-- The name starts as the names of settings do, and the setting follows in letters of either
case. -/
def namesSetting (start setting name : Text) : Prop :=
  name.startsWith start = true ∧ Text.lowerAscii (name.drop start.length) = setting

instance (start setting name : Text) : Decidable (namesSetting start setting name) :=
  inferInstanceAs (Decidable (_ ∧ _))

/-- The values that variables give to a setting, from the first variable to the last. A variable
without a value gives none. -/
def settingValues (start setting : Text) (layer : Dictionary (Option Text)) : List Value :=
  layer.filterMap fun entry =>
    if namesSetting start setting entry.1 then entry.2.map convert else none

/-- The variables of the environment all have values. -/
def valued (layer : Dictionary Text) : Dictionary (Option Text) :=
  layer.map fun entry => (entry.1, some entry.2)

/-- The value that decides a setting: the override for it, else the value of the last variable of
the environment that names it, else that of the last such entry with a value in the settings file,
else the usual value. -/
def winner (readFile : Text → Dictionary (Option Text)) (sources : Sources)
    (setting : Text) (usual : Value) : Value :=
  let overrides := sources.overrides.valuesOf setting
  let environment := settingValues sources.start setting (valued sources.environment)
  let file := settingValues sources.start setting (sources.fileWith readFile)
  (overrides.getLast?.or (environment.getLast?.or file.getLast?)).getD usual

/-- A name is read as the setting that it names. -/
theorem settingName?_eq_some_iff {start setting name : Text} :
    settingName? start name = some setting ↔ namesSetting start setting name := by
  unfold settingName? namesSetting
  split <;> simp_all

/-- Only the entries of a layer that name the setting give it values. -/
theorem valuesOf_entries (start setting : Text) (layer : Dictionary Text) :
    (entries start layer).valuesOf setting =
      settingValues start setting (valued layer) := by
  rw [Dictionary.valuesOf, entries, settingValues, valued, List.filterMap_filterMap,
    List.filterMap_map]
  congr 1
  funext entry
  simp only [Function.comp_apply, ← settingName?_eq_some_iff]
  cases settingName? start entry.1 with
  | none => rfl
  | some name => simp

/-- Lines without a value give a setting nothing. -/
theorem settingValues_given (start setting : Text) (file : Dictionary (Option Text)) :
    settingValues start setting (valued (given file)) = settingValues start setting file := by
  rw [settingValues, settingValues, valued, given, List.map_filterMap, List.filterMap_filterMap]
  congr 1
  funext entry
  cases entry.2 with
  | none => simp
  | some value => simp

/-- Among all that was collected, a setting has its winning value. -/
theorem lookup_collectWith (readFile : Text → Dictionary (Option Text)) (sources : Sources)
    (setting : Text) (usual : Value) :
    ((collectWith readFile sources).lookup setting).getD usual =
      winner readFile sources setting usual := by
  simp only [collectWith, Dictionary.lookup_insertAll, valuesOf_entries, settingValues_given,
    List.lookup_nil, Option.or_none, winner]

end Layers

namespace Settings

/-- The settings in the order in which they are checked, each with its usual value. -/
def usualValues : Dictionary Value :=
  [(strictName, .boolean default.strict), (cacheMaxSizeName, .integer default.cacheMaxSize),
    (cacheTtlName, .null), (logLevelName, .text default.logLevel)]

/-- A setting that is not there is read from its usual value. -/
theorem field_eq {α : Type} (raw : Dictionary Value) (name : Text) {usual : α}
    {read : Value → Except SettingsFault α} {value : Value} (isUsual : read value = .ok usual) :
    field raw name usual read = read ((raw.lookup name).getD value) := by
  unfold field
  cases raw.lookup name with
  | none => exact isUsual.symm
  | some found => rfl

/-- Raw settings count only as far as they decide one of the four settings. -/
theorem build_congr {first second : Dictionary Value}
    (same : ∀ setting ∈ usualValues, (first.lookup setting.1).getD setting.2 =
      (second.lookup setting.1).getD setting.2) : build first = build second := by
  have usual : readStrict (.boolean default.strict) = .ok default.strict ∧
      readSize (.integer default.cacheMaxSize) = .ok default.cacheMaxSize ∧
      readTtl .null = .ok default.cacheTtl ∧
      readLevel (.text default.logLevel) = .ok default.logLevel := ⟨rfl, rfl, rfl, rfl⟩
  obtain ⟨strict, cacheMaxSize, cacheTtl, logLevel⟩ := usual
  simp only [usualValues, List.forall_mem_cons, List.not_mem_nil, false_implies, implies_true,
    and_true] at same
  obtain ⟨sameStrict, sameSize, sameTtl, sameLevel⟩ := same
  unfold build
  simp only [field_eq _ _ strict, field_eq _ _ cacheMaxSize, field_eq _ _ cacheTtl,
    field_eq _ _ logLevel, sameStrict, sameSize, sameTtl, sameLevel]

/-- The winning value of each setting. -/
def winners (readFile : Text → Dictionary (Option Text)) (sources : Layers.Sources) :
    Dictionary Value :=
  usualValues.map fun setting =>
    (setting.1, Layers.winner readFile sources setting.1 setting.2)

/-- Every setting has its winning value among the winners. -/
theorem lookup_winners (readFile : Text → Dictionary (Option Text)) (sources : Layers.Sources) :
    ∀ setting ∈ usualValues, (winners readFile sources).lookup setting.1 =
      some (Layers.winner readFile sources setting.1 setting.2) := by
  simp only [usualValues, List.forall_mem_cons, List.not_mem_nil, false_implies, implies_true,
    and_true]
  exact ⟨rfl, rfl, rfl, rfl⟩

/-- Loading checks the winning values and nothing else, so sources with the same winners load the
same settings or fail in the same way. -/
theorem loadWith_eq_build_winners (readFile : Text → Dictionary (Option Text))
    (sources : Layers.Sources) :
    loadWith readFile sources = (build (winners readFile sources) >>= announce) ∧
      ∀ other : Layers.Sources,
        (∀ setting ∈ usualValues, Layers.winner readFile other setting.1 setting.2 =
          Layers.winner readFile sources setting.1 setting.2) →
        loadWith readFile other = loadWith readFile sources := by
  refine ⟨?_, fun other sameWinners => ?_⟩
  · have sameBuild : build (Layers.collectWith readFile sources) =
        build (winners readFile sources) :=
      build_congr fun setting member => by
        rw [Layers.lookup_collectWith, lookup_winners readFile sources setting member,
          Option.getD_some]
    rw [loadWith, sameBuild]
  · have sameBuild : build (Layers.collectWith readFile other) =
        build (Layers.collectWith readFile sources) :=
      build_congr fun setting member => by
        rw [Layers.lookup_collectWith, Layers.lookup_collectWith]
        exact sameWinners setting member
    rw [loadWith, loadWith, sameBuild]

theorem loadWith_eq_build_winners_hidden :
    let readFile : Text → Dictionary (Option Text) := fun _ =>
      [("U_STRICT", some "2"), ("U_CACHE_TTL", none)]
    let sources : Layers.Sources := ⟨"U_", some "U_STRICT=2\nU_CACHE_TTL",
      [("STRICT", "on"), ("U_STRICT", "maybe"), ("U_strict", "no"), ("U_LOG_LEVEL", "loud")],
      [("log_level", .text "info"), ("cache_max_size", .integer 5)]⟩
    let other : Layers.Sources := ⟨[], none, [("Strict", "off")],
      [("cache_max_size", .integer 5), ("log_level", .text "info")]⟩
    loadWith readFile other = .ok ⟨false, 5, none, "INFO"⟩ ∧
      loadWith readFile other = loadWith readFile sources := by
  intro readFile sources other
  have sameWinners : ∀ setting ∈ usualValues,
      Layers.winner readFile other setting.1 setting.2 =
        Layers.winner readFile sources setting.1 setting.2 := by
    simp only [usualValues, List.forall_mem_cons, List.not_mem_nil, false_implies, implies_true,
      and_true]
    exact ⟨rfl, rfl, rfl, rfl⟩
  exact ⟨by decide +kernel, (loadWith_eq_build_winners readFile sources).2 other sameWinners⟩

end Settings

end UriTemplate
