import UriTemplate.Proofs.Settings.Validity
import UriTemplate.Value.Written

namespace UriTemplate

namespace Layers

/-- The last variable that names the setting holds the text. -/
def Holds (start : Text) (environment : Dictionary Text) (setting text : Text) : Prop :=
  ((environment.filter fun entry => namesSetting start setting entry.1).map Prod.snd).getLast? =
    some text

variable {start : Text} {environment : Dictionary Text} {setting text : Text}

/-- The values that the environment gives a setting are converted in their order. -/
theorem settingValues_valued (start setting : Text) (environment : Dictionary Text) :
    settingValues start setting (valued environment) =
      ((environment.filter fun entry => namesSetting start setting entry.1).map Prod.snd).map
        convert := by
  rw [settingValues, valued, List.filterMap_map, List.map_map, ← List.filterMap_eq_map,
    List.filterMap_filter]
  congr 1
  funext entry
  by_cases named : namesSetting start setting entry.1 <;> simp [named]

/-- What the environment holds wins over the settings file. -/
theorem winner_of_holds (holds : Holds start environment setting text)
    (readFile : Text → Dictionary (Option Text)) (file : Option Text) (usual : Value) :
    winner readFile ⟨start, file, environment, []⟩ setting usual = convert text := by
  have isLast : (settingValues start setting (valued environment)).getLast? =
      some (convert text) := by
    rw [settingValues_valued, List.getLast?_map, holds]
    rfl
  simp [winner, Dictionary.valuesOf, isLast]

end Layers

namespace Settings

/-- Settings as they can be loaded: the size is not negative and has few enough digits to be
written, the time to live is a binary64 number if there is one, and the level is one of the levels
of the log. -/
structure IsValid (settings : Settings) : Prop where
  nonnegative : 0 ≤ settings.cacheMaxSize
  isShort : Numeral.isShort settings.cacheMaxSize = true
  cacheTtl : ∀ ttl ∈ settings.cacheTtl, ∃ number, ttl = .binary number
  logLevel : settings.logLevel ∈ logLevels

/-- A duration as a value. -/
def ttlValue : Option Duration → Value
  | none => .null
  | some (.whole seconds) => .integer seconds
  | some (.binary seconds) => .number seconds

/-- Each setting is in the environment as the text that it is written as. -/
structure IsWritten (start : Text) (environment : Dictionary Text) (settings : Settings) :
    Prop where
  strict : Layers.Holds start environment strictName (Value.boolean settings.strict).literal
  cacheMaxSize : Layers.Holds start environment cacheMaxSizeName
    (Value.integer settings.cacheMaxSize).literal
  cacheTtl : Layers.Holds start environment cacheTtlName (ttlValue settings.cacheTtl).literal
  logLevel : Layers.Holds start environment logLevelName settings.logLevel

/-- A level of the log is not taken for anything but a text, and it is in capitals. -/
theorem convert_logLevel {level : Text} (isLevel : level ∈ logLevels) :
    Layers.convert level = .text level ∧ Uppercase.text level = level := by
  have stays : ∀ level ∈ logLevels, Uppercase.text level = level := by decide +kernel
  have isText : ∀ level ∈ logLevels, Layers.convert level = .text level := by
    simp only [logLevels, List.forall_mem_cons, List.not_mem_nil, false_implies, implies_true,
      and_true]
    exact ⟨rfl, rfl, rfl, rfl, rfl⟩
  exact ⟨isText level isLevel, stays level isLevel⟩

/-- A written truth value is read back. -/
theorem convert_literal_boolean (value : Bool) :
    Layers.convert (Value.boolean value).literal = .boolean value := by
  cases value <;> rfl

/-- A written size is read back, unless it has too many digits. -/
theorem convert_literal_integer {size : Int} (nonnegative : 0 ≤ size)
    (isShort : Numeral.isShort size = true) :
    Layers.convert (Value.integer size).literal = .integer size := by
  obtain ⟨number, rfl⟩ := Int.eq_ofNat_of_zero_le nonnegative
  exact Layers.convert_ofNat isShort

/-- What is read from the environment is what was written, except for the time to live. -/
theorem ofSources_of_isWritten {start : Text} {environment : Dictionary Text} {settings : Settings}
    (valid : settings.IsValid) (written : settings.IsWritten start environment)
    (readFile : Text → Dictionary (Option Text)) (file : Option Text) :
    Raw.ofSources readFile ⟨start, file, environment, []⟩ =
      ⟨.boolean settings.strict, .integer settings.cacheMaxSize,
        Layers.convert (ttlValue settings.cacheTtl).literal, .text settings.logLevel⟩ := by
  rw [Raw.ofSources, Layers.winner_of_holds written.strict,
    Layers.winner_of_holds written.cacheMaxSize, Layers.winner_of_holds written.cacheTtl,
    Layers.winner_of_holds written.logLevel, convert_literal_boolean,
    convert_literal_integer valid.nonnegative valid.isShort, (convert_logLevel valid.logLevel).1]

/-- A time to live comes back as it is if it is written with a point. -/
theorem convert_literal_ttl {ttl : Option Duration}
    (isBinary : ∀ duration ∈ ttl, ∃ number, duration = .binary number)
    (hasPoint : ∀ number, ttl = some (.binary number) → ¬number.IsPointless) :
    ∃ value, Layers.convert (ttlValue ttl).literal = value ∧ IsTtl value ttl := by
  cases ttl with
  | none => exact ⟨.null, rfl, .null⟩
  | some duration =>
      obtain ⟨number, rfl⟩ := isBinary duration rfl
      have isNumber : Layers.convert number.written = .number number := by
        rw [Layers.convert_written, if_neg (hasPoint number rfl)]
      exact ⟨.number number, isNumber, .number number⟩

/-- Settings that are written into the environment are loaded from there unchanged, unless the time
to live is written without a point. Then it remains a text and is refused. -/
theorem loadWith_restores_written (readFile : Text → Dictionary (Option Text)) (start : Text)
    (file : Option Text) (environment : Dictionary Text) (settings : Settings)
    (valid : settings.IsValid) (written : settings.IsWritten start environment) :
    ((∀ number, settings.cacheTtl = some (.binary number) → ¬number.IsPointless) →
        loadWith readFile ⟨start, file, environment, []⟩ = .ok settings) ∧
      ∀ number, settings.cacheTtl = some (.binary number) → number.IsPointless →
        loadWith readFile ⟨start, file, environment, []⟩ =
          .error (.wrongType cacheTtlName "typing.Optional[float]" "str") := by
  constructor
  · intro hasPoint
    obtain ⟨value, isValue, isTtl⟩ := convert_literal_ttl valid.cacheTtl hasPoint
    have isLevel := IsLevel.text settings.logLevel
    rw [(convert_logLevel valid.logLevel).2] at isLevel
    refine ((loadWith_decides _ _).eq_ok_iff settings).mpr ⟨?_, valid.isShort⟩
    rw [ofSources_of_isWritten valid written, isValue]
    exact ⟨.boolean _, rfl, valid.nonnegative, isTtl, isLevel valid.logLevel⟩
  · intro number isNumber isPointless
    rw [loadWith_eq_check, ofSources_of_isWritten valid written, isNumber, ttlValue, Value.literal,
      Layers.convert_written, if_pos isPointless]
    rfl

theorem loadWith_restores_written_number :
    let environment (ttl : Binary64) : Dictionary Text :=
      [("PATH", "/bin"), ("URITPL_strict", "True"), ("URITPL_STRICT", "False"),
        ("URITPL_CACHE_MAX_SIZE", "0"), ("URITPL_CACHE_TTL", ttl.written),
        ("URITPL_LOG_LEVEL", "DEBUG")]
    let half : Binary64 := .ofDecimal false 5 (-1)
    let large : Binary64 := .ofDecimal false 1 16
    let readFile : Text → Dictionary (Option Text) := fun _ => []
    loadWith readFile ⟨Layers.usualStart, none, environment half, []⟩ =
        .ok ⟨false, 0, some (.binary half), "DEBUG"⟩ ∧
      loadWith readFile ⟨Layers.usualStart, none, environment large, []⟩ =
        .error (.wrongType cacheTtlName "typing.Optional[float]" "str") := by
  intro environment half large readFile
  have isShort : Numeral.isShort 0 = true := by decide +kernel
  have valid (ttl : Binary64) : IsValid ⟨false, 0, some (.binary ttl), "DEBUG"⟩ :=
    { nonnegative := le_rfl
      isShort := isShort
      cacheTtl := by
        rintro _ ⟨⟩
        exact ⟨ttl, rfl⟩
      logLevel := (by decide : Text.ofString "DEBUG" ∈ logLevels) }
  have written (ttl : Binary64) :
      IsWritten Layers.usualStart (environment ttl) ⟨false, 0, some (.binary ttl), "DEBUG"⟩ :=
    ⟨rfl, rfl, rfl, rfl⟩
  constructor
  · refine (loadWith_restores_written _ _ _ _ _ (valid half) (written half)).1 ?_
    rintro _ ⟨⟩
    decide +kernel
  · exact (loadWith_restores_written _ _ _ _ _ (valid large) (written large)).2 large rfl
      (by decide +kernel)

/-- Ten to the power of sixteen seconds is a valid time to live, but it is written without a point
and does not come back. -/
theorem load_not_restores_power_of_ten :
    let settings : Settings := ⟨true, 1000, some (.binary (.ofDecimal false 1 16)), "WARNING"⟩
    let environment : Dictionary Text :=
      [("URITPL_STRICT", "True"), ("URITPL_CACHE_MAX_SIZE", "1000"), ("URITPL_CACHE_TTL", "1e+16"),
        ("URITPL_LOG_LEVEL", "WARNING")]
    settings.IsValid ∧ settings.IsWritten Layers.usualStart environment ∧
      loadWith (fun _ => []) ⟨Layers.usualStart, none, environment, []⟩ ≠ .ok settings := by
  intro settings environment
  have isWritten : settings.IsWritten Layers.usualStart environment :=
    { strict := rfl
      cacheMaxSize := rfl
      cacheTtl := by
        unfold Layers.Holds
        decide +kernel
      logLevel := rfl }
  refine ⟨⟨by decide, by decide +kernel, ?_, by decide⟩, isWritten, by decide +kernel⟩
  rintro _ ⟨⟩
  exact ⟨_, rfl⟩

end Settings

end UriTemplate
