import UriTemplate.CommandLine.Run
import UriTemplate.Proofs.Number.Rounding
import UriTemplate.Proofs.Settings.Conversion
import UriTemplate.Proofs.Settings.Winners

namespace UriTemplate

/-- These faults are found by the checks of the settings. The others come from numbers that cannot
be converted or written, and from reading the settings file. -/
def SettingsFault.IsConfigError : SettingsFault → Prop
  | .wrongType .. | .unknownLevel _ | .negativeSize => True
  | .tooLarge | .tooManyDigits | .unreadableFile _ => False

/-- Signs and digits are no letters, so they stay in front when letters become capitals. -/
theorem Uppercase.startsAsNumber_text {text : Text} (starts : text.startsAsNumber = true) :
    (Uppercase.text text).startsAsNumber = true := by
  cases text with
  | nil => exact starts
  | cons first rest =>
      have stays : ∀ value < 58, 45 ≤ value → Uppercase.values value = [value] := by decide
      have bounds : 45 ≤ first.value ∧ first.value < 58 := by
        simp only [Text.startsAsNumber, List.head?_cons, Option.any_some, Bool.or_eq_true,
          decide_eq_true_eq] at starts
        rcases starts with rfl | isDigit
        · decide
        · obtain ⟨lowest, highest⟩ := CodePoint.isDigit_iff.mp isDigit
          omega
      have isFirst : CodePoint.ofNat? first.value = some first := dif_pos first.inRange
      have isCons : Uppercase.text (first :: rest) = first :: Uppercase.text rest := by
        simp [Uppercase.text, stays first.value bounds.2 bounds.1, isFirst]
      rw [isCons]
      exact starts

namespace Settings

/-- The winning values of the settings. -/
structure Raw where
  strict : Value
  cacheMaxSize : Value
  cacheTtl : Value
  logLevel : Value

namespace Raw

/-- The winning values in the order in which they are checked. -/
def ofSources (readFile : Text → Dictionary (Option Text)) (sources : Layers.Sources) : Raw where
  strict := Layers.winner readFile sources strictName (.boolean default.strict)
  cacheMaxSize := Layers.winner readFile sources cacheMaxSizeName (.integer default.cacheMaxSize)
  cacheTtl := Layers.winner readFile sources cacheTtlName .null
  logLevel := Layers.winner readFile sources logLevelName (.text default.logLevel)

/-- The checks of the settings, with the winning values in their places. -/
def check (raw : Raw) : Except SettingsFault Settings := do
  let strict ← readStrict raw.strict
  let cacheMaxSize ← readSize raw.cacheMaxSize
  let cacheTtl ← readTtl raw.cacheTtl
  let logLevel ← readLevel raw.logLevel
  validate ⟨strict, cacheMaxSize, cacheTtl, logLevel⟩

end Raw

/-- Loading checks the winning values and announces what they become. -/
theorem loadWith_eq_check (readFile : Text → Dictionary (Option Text))
    (sources : Layers.Sources) :
    loadWith readFile sources = ((Raw.ofSources readFile sources).check >>= announce) := by
  have usualStrict : readStrict (.boolean default.strict) = .ok default.strict := rfl
  have usualSize : readSize (.integer default.cacheMaxSize) = .ok default.cacheMaxSize := rfl
  have usualTtl : readTtl .null = .ok default.cacheTtl := rfl
  have usualLevel : readLevel (.text default.logLevel) = .ok default.logLevel := rfl
  rw [loadWith, build, field_eq _ _ usualStrict, field_eq _ _ usualSize, field_eq _ _ usualTtl,
    field_eq _ _ usualLevel]
  simp only [Layers.lookup_collectWith]
  rfl

/-- A truth value, or one of the numbers zero and one. -/
inductive IsTruth : Value → Bool → Prop
  | boolean (value : Bool) : IsTruth (.boolean value) value
  | zero : IsTruth (.integer 0) false
  | one : IsTruth (.integer 1) true

/-- Nothing, a binary64 number, or a whole number in the range of those, which becomes one. -/
inductive IsTtl : Value → Option Duration → Prop
  | null : IsTtl .null none
  | number (number : Binary64) : IsTtl (.number number) (some (.binary number))
  | integer (number : Int) (inRange : number.natAbs < Binary64.overflow) :
      IsTtl (.integer number) (some (.binary (.ofInt number)))

/-- A text that is a level of the log when it is written in capitals. -/
inductive IsLevel : Value → Text → Prop
  | text (text : Text) :
      Uppercase.text text ∈ logLevels → IsLevel (.text text) (Uppercase.text text)

/-- Each raw setting is of the right kind and in range, and these settings hold what it is. -/
structure Raw.Becomes (raw : Raw) (settings : Settings) : Prop where
  strict : IsTruth raw.strict settings.strict
  cacheMaxSize : raw.cacheMaxSize = .integer settings.cacheMaxSize
  nonnegative : 0 ≤ settings.cacheMaxSize
  cacheTtl : IsTtl raw.cacheTtl settings.cacheTtl
  logLevel : IsLevel raw.logLevel settings.logLevel

/-- The time to live is a whole number too large for binary64 numbers, and the settings that are
checked before it are of the right kinds. -/
structure Raw.Overflows (raw : Raw) : Prop where
  strict : ∃ value, IsTruth raw.strict value
  cacheMaxSize : ∃ size, raw.cacheMaxSize = .integer size
  cacheTtl : ∃ seconds, raw.cacheTtl = .integer seconds ∧ Binary64.overflow ≤ seconds.natAbs

/-- The level of the log is a whole number with too many digits to be taken as a text, and the
settings that are checked before it are of the right kinds. -/
structure Raw.HasLongLevel (raw : Raw) : Prop where
  strict : ∃ value, IsTruth raw.strict value
  cacheMaxSize : ∃ size, raw.cacheMaxSize = .integer size
  cacheTtl : ∃ ttl, IsTtl raw.cacheTtl ttl
  logLevel : ∃ number, raw.logLevel = .integer number ∧ Numeral.isShort number = false

/-- What ends the loading of settings without an error of the settings: a number that is converted
or written in one of the three places where that can fail. -/
inductive Raw.Escapes (raw : Raw) : SettingsFault → Prop
  | seconds (overflows : raw.Overflows) : raw.Escapes .tooLarge
  | level (isLong : raw.HasLongLevel) : raw.Escapes .tooManyDigits
  | size {settings : Settings} (becomes : raw.Becomes settings)
      (isLong : Numeral.isShort settings.cacheMaxSize = false) : raw.Escapes .tooManyDigits

/-- What escapes is no error of the settings. -/
theorem Raw.Escapes.not_isConfigError {raw : Raw} {fault : SettingsFault}
    (escapes : raw.Escapes fault) : ¬fault.IsConfigError := by
  cases escapes <;> exact id

/-- The result is known but for which error of the settings it is: it is a value just if that is
accepted, and any other fault just if that escapes. -/
structure Decides {α : Type} (result : Except SettingsFault α) (accepts : α → Prop)
    (escapes : SettingsFault → Prop) : Prop where
  eq_ok_iff : ∀ value, result = .ok value ↔ accepts value
  eq_error_iff : ∀ fault, ¬fault.IsConfigError → (result = .error fault ↔ escapes fault)

namespace Decides

variable {α β : Type} {result : Except SettingsFault α} {accepts : α → Prop}
  {escapes : SettingsFault → Prop}

/-- A value is accepted and nothing else is. -/
theorem ok {value : α} (only : ∀ other, accepts other ↔ other = value)
    (kept : ∀ fault, ¬escapes fault) : Decides (.ok value) accepts escapes where
  eq_ok_iff other := by rw [only other, Except.ok.injEq, eq_comm]
  eq_error_iff fault _ := iff_of_false nofun (kept fault)

/-- Any other fault escapes and nothing else does. -/
theorem escape {fault : SettingsFault} (refused : ∀ value, ¬accepts value)
    (only : ∀ other, escapes other ↔ other = fault) : Decides (.error fault) accepts escapes where
  eq_ok_iff value := iff_of_false nofun (refused value)
  eq_error_iff other _ := by rw [only other, Except.error.injEq, eq_comm]

/-- An error of the settings is no value and does not escape. -/
theorem error {fault : SettingsFault} (isConfigError : fault.IsConfigError)
    (refused : ∀ value, ¬accepts value) (kept : ∀ other, ¬escapes other) :
    Decides (.error fault) accepts escapes where
  eq_ok_iff value := iff_of_false nofun (refused value)
  eq_error_iff other isOther := by
    refine iff_of_false (fun same => isOther ?_) (kept other)
    exact Except.error.inj same ▸ isConfigError

/-- What the first step accepts goes on to the second, and what escapes from either escapes. -/
theorem bind {kept : α → β → Prop} {lost : α → SettingsFault → Prop}
    {next : α → Except SettingsFault β} (decides : Decides result accepts escapes)
    (continues : ∀ value, accepts value → Decides (next value) (kept value) (lost value)) :
    Decides (result >>= next) (fun other => ∃ value, accepts value ∧ kept value other)
      fun fault => escapes fault ∨ ∃ value, accepts value ∧ lost value fault := by
  cases result with
  | error fault =>
      have refused (value : α) : ¬accepts value := fun accepted =>
        nomatch (decides.eq_ok_iff value).mpr accepted
      refine ⟨fun other => iff_of_false nofun ?_, fun other isOther => ?_⟩
      · exact fun ⟨value, accepted, _⟩ => refused value accepted
      · refine Iff.trans ?_ ((decides.eq_error_iff other isOther).trans ⟨.inl, ?_⟩)
        · exact ⟨fun same => congrArg Except.error (Except.error.inj same),
            fun same => congrArg Except.error (Except.error.inj same)⟩
        · rintro (escaped | ⟨value, accepted, _⟩)
          · exact escaped
          · exact absurd accepted (refused value)
  | ok value =>
      have accepted : accepts value := (decides.eq_ok_iff value).mp rfl
      have only {other : α} (isOther : accepts other) : value = other :=
        Except.ok.inj ((decides.eq_ok_iff other).mpr isOther)
      have continued := continues value accepted
      refine ⟨fun other => (continued.eq_ok_iff other).trans ⟨fun isKept => ?_, ?_⟩,
        fun fault isOther => (continued.eq_error_iff fault isOther).trans ⟨fun isLost => ?_, ?_⟩⟩
      · exact ⟨value, accepted, isKept⟩
      · rintro ⟨same, isAccepted, isKept⟩
        exact only isAccepted ▸ isKept
      · exact .inr ⟨value, accepted, isLost⟩
      · rintro (escaped | ⟨same, isAccepted, isLost⟩)
        · exact nomatch (decides.eq_error_iff fault isOther).mpr escaped
        · exact only isAccepted ▸ isLost

/-- Acceptance and escape may be put in other words. -/
theorem congr {others : α → Prop} {faults : SettingsFault → Prop}
    (decides : Decides result accepts escapes) (sameValues : ∀ value, accepts value ↔ others value)
    (sameFaults : ∀ fault, escapes fault ↔ faults fault) : Decides result others faults :=
  ⟨fun value => (decides.eq_ok_iff value).trans (sameValues value),
    fun fault isOther => (decides.eq_error_iff fault isOther).trans (sameFaults fault)⟩

/-- What is not accepted and does not escape is an error of the settings. -/
theorem exists_isConfigError (decides : Decides result accepts escapes)
    (refused : ¬∃ value, accepts value) (kept : ¬∃ fault, escapes fault) :
    ∃ fault, result = .error fault ∧ fault.IsConfigError := by
  cases result with
  | ok value => exact absurd ⟨value, (decides.eq_ok_iff value).mp rfl⟩ refused
  | error fault =>
      refine ⟨fault, rfl, ?_⟩
      by_contra isOther
      exact kept ⟨fault, (decides.eq_error_iff fault isOther).mp rfl⟩

end Decides

section Readers

/-- Truth values, zero and one are read; everything else is an error of the settings. -/
theorem readStrict_decides (value : Value) :
    Decides (readStrict value) (IsTruth value) fun _ => False := by
  unfold readStrict
  split
  · exact .ok (fun other => ⟨fun | .boolean _ => rfl, fun same => same ▸ .boolean _⟩) fun _ => id
  · exact .ok (fun other => ⟨fun | .zero => rfl, fun same => same ▸ .zero⟩) fun _ => id
  · exact .ok (fun other => ⟨fun | .one => rfl, fun same => same ▸ .one⟩) fun _ => id
  · next notBoolean notZero notOne =>
      refine .error trivial (fun other isTruth => ?_) fun _ => id
      cases isTruth with
      | boolean => exact notBoolean _ rfl
      | zero => exact notZero rfl
      | one => exact notOne rfl

/-- Whole numbers are read; everything else is an error of the settings. -/
theorem readSize_decides (value : Value) :
    Decides (readSize value) (fun size => value = .integer size) fun _ => False := by
  unfold readSize
  split
  · exact .ok (fun other => by rw [Value.integer.injEq, eq_comm]) fun _ => id
  · next notInteger => exact .error trivial notInteger fun _ => id

/-- A whole number that leaves the range of the numbers cannot be converted. -/
theorem readTtl_decides (value : Value) :
    Decides (readTtl value) (IsTtl value) fun fault => fault = .tooLarge ∧
      ∃ seconds, value = .integer seconds ∧ Binary64.overflow ≤ seconds.natAbs := by
  have isRead {ttl : Option Duration} (only : ∀ other, IsTtl value other ↔ other = ttl)
      (fits : ∀ seconds, value = .integer seconds → seconds.natAbs < Binary64.overflow) :
      Decides (.ok ttl) (IsTtl value) fun fault => fault = .tooLarge ∧
        ∃ seconds, value = .integer seconds ∧ Binary64.overflow ≤ seconds.natAbs := by
    refine .ok only fun fault => ?_
    rintro ⟨-, seconds, isInteger, isLarge⟩
    exact Nat.not_lt.mpr isLarge (fits seconds isInteger)
  cases value with
  | null => exact isRead (fun other => ⟨fun | .null => rfl, fun same => same ▸ .null⟩) nofun
  | number number =>
      exact isRead (fun other => ⟨fun | .number _ => rfl, fun same => same ▸ .number _⟩) nofun
  | integer seconds =>
      rw [readTtl, Binary64.ofInt?_eq]
      by_cases isLarge : Binary64.overflow ≤ seconds.natAbs
      · rw [if_pos isLarge]
        refine .escape (fun other isTtl => ?_) fun fault => and_iff_left ⟨seconds, rfl, isLarge⟩
        cases isTtl with
        | integer _ inRange => exact Nat.not_lt.mpr isLarge inRange
      · rw [if_neg isLarge]
        have inRange := Nat.not_le.mp isLarge
        refine isRead (fun other => ⟨fun | .integer _ _ => rfl, fun same => ?_⟩) ?_
        · exact same ▸ .integer _ inRange
        · rintro _ ⟨⟩
          exact inRange
  | boolean | text | octets | sequence | stream | mapping =>
      exact .error trivial (fun other isTtl => by cases isTtl) fun other escaped => by
        obtain ⟨-, seconds, isInteger, -⟩ := escaped
        cases isInteger

/-- A known level and a size that is not negative are valid. -/
theorem validate_decides (settings : Settings) :
    Decides (validate settings) (fun valid =>
      valid = { settings with logLevel := Uppercase.text settings.logLevel } ∧
        0 ≤ valid.cacheMaxSize ∧ valid.logLevel ∈ logLevels) fun _ => False := by
  unfold validate
  dsimp only
  split
  · next unknown =>
      refine .error trivial ?_ fun _ => id
      rintro _ ⟨rfl, _, isLevel⟩
      simp [isLevel] at unknown
  · next known =>
      split
      · next negative =>
          refine .error trivial ?_ fun _ => id
          rintro _ ⟨rfl, nonnegative, _⟩
          exact absurd negative (Int.not_lt.mpr nonnegative)
      · next nonnegative =>
          refine .ok (fun other => ⟨And.left, ?_⟩) fun _ => id
          rintro rfl
          exact ⟨rfl, Int.not_lt.mp nonnegative, by simpa using known⟩

/-- A level that is not known is an error of the settings. -/
theorem validate_decides_of_unknown {settings : Settings}
    (unknown : Uppercase.text settings.logLevel ∉ logLevels) {accepts : Settings → Prop}
    (refused : ∀ valid, ¬accepts valid) {escapes : SettingsFault → Prop}
    (kept : ∀ fault, ¬escapes fault) : Decides (validate settings) accepts escapes := by
  have isError : validate settings = .error (.unknownLevel (Uppercase.text settings.logLevel)) := by
    simp [validate, unknown]
  rw [isError]
  exact .error trivial refused kept

/-- No number is written as a level of the log is. -/
theorem not_mem_logLevels_of_number {text : Text}
    (isNumber : text.startsAsNumber = true ∨ text ∈ [Text.ofString "nan", Text.ofString "inf"]) :
    Uppercase.text text ∉ logLevels := by
  rcases isNumber with starts | isWord
  · have noLevel : ∀ level ∈ logLevels, level.startsAsNumber = false := by decide
    intro isLevel
    exact Bool.false_ne_true
      ((noLevel _ isLevel).symm.trans (Uppercase.startsAsNumber_text starts))
  · have noLevel : ∀ word ∈ [Text.ofString "nan", Text.ofString "inf"],
        Uppercase.text word ∉ logLevels := by decide +kernel
    exact noLevel text isWord

/-- A number is taken as the text it is written as, and then it is refused as a level; but one with
too many digits cannot be written. -/
theorem readLevel_validate_decides (strict : Bool) (cacheMaxSize : Int)
    (cacheTtl : Option Duration) (value : Value) :
    Decides (readLevel value >>= fun logLevel =>
        validate ⟨strict, cacheMaxSize, cacheTtl, logLevel⟩)
      (fun settings => settings.strict = strict ∧ settings.cacheMaxSize = cacheMaxSize ∧
        settings.cacheTtl = cacheTtl ∧ 0 ≤ settings.cacheMaxSize ∧
        IsLevel value settings.logLevel)
      fun fault => fault = .tooManyDigits ∧
        ∃ number, value = .integer number ∧ Numeral.isShort number = false := by
  have notLevel {level : Value} (noText : ∀ text, level ≠ .text text) {text : Text} :
      ¬IsLevel level text := by
    rintro ⟨text, _⟩
    exact noText text rfl
  cases value with
  | text text =>
      refine (validate_decides _).congr (fun settings => ⟨?_, ?_⟩) fun fault => ⟨False.elim, nofun⟩
      · rintro ⟨rfl, nonnegative, isKnown⟩
        exact ⟨rfl, rfl, rfl, nonnegative, .text text isKnown⟩
      · rcases settings with ⟨_, _, _, level⟩
        rintro ⟨rfl, rfl, rfl, nonnegative, isLevel⟩
        cases isLevel with
        | text _ isKnown => exact ⟨rfl, nonnegative, isKnown⟩
  | integer number =>
      have refused (settings : Settings) : ¬IsLevel (.integer number) settings.logLevel :=
        notLevel (by simp)
      cases isShort : Numeral.isShort number with
      | true =>
          rw [readLevel, if_pos isShort]
          have unknown := not_mem_logLevels_of_number (.inl (Text.startsAsNumber_ofInt number))
          refine validate_decides_of_unknown unknown
            (fun settings accepted => refused settings accepted.2.2.2.2) ?_
          rintro _ ⟨-, _, ⟨⟩, isLong⟩
          exact Bool.false_ne_true (isLong.symm.trans isShort)
      | false =>
          rw [readLevel, if_neg (Bool.eq_false_iff.mp isShort)]
          exact .escape (fun settings accepted => refused settings accepted.2.2.2.2)
            fun fault => and_iff_left ⟨number, rfl, isShort⟩
  | number number =>
      have unknown := not_mem_logLevels_of_number (Binary64.startsAsNumber_written number)
      refine validate_decides_of_unknown unknown
        (fun settings accepted => notLevel (by simp) accepted.2.2.2.2) ?_
      exact fun fault ⟨_, _, isInteger, _⟩ => by cases isInteger
  | null | boolean | octets | sequence | stream | mapping =>
      refine .error trivial (fun settings accepted => notLevel (by simp) accepted.2.2.2.2) ?_
      exact fun fault ⟨_, _, isInteger, _⟩ => by cases isInteger

/-- A size with too many digits cannot be announced. -/
theorem announce_decides (settings : Settings) :
    Decides (announce settings)
      (fun other => other = settings ∧ Numeral.isShort settings.cacheMaxSize = true)
      fun fault => fault = .tooManyDigits ∧ Numeral.isShort settings.cacheMaxSize = false := by
  unfold announce
  cases Numeral.isShort settings.cacheMaxSize with
  | true => constructor <;> simp [eq_comm]
  | false => constructor <;> simp [eq_comm]

end Readers

/-- The settings are checked in their order, so that nothing is found too large or too long before
the checks of the settings that come first. -/
theorem Raw.check_decides (raw : Raw) : Decides raw.check raw.Becomes fun fault =>
    (fault = .tooLarge ∧ raw.Overflows) ∨ (fault = .tooManyDigits ∧ raw.HasLongLevel) := by
  refine ((readStrict_decides raw.strict).bind fun strict isStrict =>
    (readSize_decides raw.cacheMaxSize).bind fun cacheMaxSize isSize =>
      (readTtl_decides raw.cacheTtl).bind fun cacheTtl isTtl =>
        readLevel_validate_decides strict cacheMaxSize cacheTtl raw.logLevel).congr
    (fun settings => ⟨?_, ?_⟩) fun fault => ⟨?_, ?_⟩
  · rcases settings with ⟨strict, cacheMaxSize, cacheTtl, logLevel⟩
    rintro ⟨_, isStrict, _, isSize, _, isTtl, rfl, rfl, rfl, nonnegative, isLevel⟩
    exact ⟨isStrict, isSize, nonnegative, isTtl, isLevel⟩
  · intro becomes
    exact ⟨_, becomes.strict, _, becomes.cacheMaxSize, _, becomes.cacheTtl, rfl, rfl, rfl,
      becomes.nonnegative, becomes.logLevel⟩
  · rintro (⟨⟨⟩⟩ | ⟨strict, isStrict, ⟨⟨⟩⟩ | ⟨size, isSize, ⟨isFault, isLarge⟩ |
      ⟨ttl, isTtl, isFault, isLong⟩⟩⟩)
    · exact .inl ⟨isFault, ⟨strict, isStrict⟩, ⟨size, isSize⟩, isLarge⟩
    · exact .inr ⟨isFault, ⟨strict, isStrict⟩, ⟨size, isSize⟩, ⟨ttl, isTtl⟩, isLong⟩
  · rintro (⟨isFault, ⟨strict, isStrict⟩, ⟨size, isSize⟩, isLarge⟩ |
      ⟨isFault, ⟨strict, isStrict⟩, ⟨size, isSize⟩, ⟨ttl, isTtl⟩, isLong⟩)
    · exact .inr ⟨strict, isStrict, .inr ⟨size, isSize, .inl ⟨isFault, isLarge⟩⟩⟩
    · exact .inr ⟨strict, isStrict, .inr ⟨size, isSize, .inr ⟨ttl, isTtl, isFault, isLong⟩⟩⟩

/-- Settings are loaded from winning values of the right kinds that are in range and can be written
into the log, and what prevents that is an error of the settings or escapes. -/
theorem loadWith_decides (readFile : Text → Dictionary (Option Text)) (sources : Layers.Sources) :
    Decides (loadWith readFile sources)
      (fun settings => (Raw.ofSources readFile sources).Becomes settings ∧
        Numeral.isShort settings.cacheMaxSize = true)
      (Raw.ofSources readFile sources).Escapes := by
  rw [loadWith_eq_check]
  refine ((Raw.check_decides _).bind fun settings _ => announce_decides settings).congr
    (fun settings => ⟨?_, fun ⟨becomes, isShort⟩ => ⟨settings, becomes, rfl, isShort⟩⟩)
    fun fault => ⟨?_, ?_⟩
  · rintro ⟨_, becomes, rfl, isShort⟩
    exact ⟨becomes, isShort⟩
  · rintro ((⟨rfl, overflows⟩ | ⟨rfl, isLong⟩) | ⟨settings, becomes, rfl, isLong⟩)
    · exact .seconds overflows
    · exact .level isLong
    · exact .size becomes isLong
  · intro escaped
    cases escaped with
    | seconds overflows => exact .inl (.inl ⟨rfl, overflows⟩)
    | level isLong => exact .inl (.inr ⟨rfl, isLong⟩)
    | size becomes isLong => exact .inr ⟨_, becomes, rfl, isLong⟩

/-- If a whole number of seconds stays in the range of the numbers, settings are loaded exactly from
winning values of the right kinds that are in range, unless the size has too many digits to be
written into the log. Other winning values are refused with an error of the settings, unless the
level of the log is a whole number that has too many digits to be written. -/
theorem loadWith_accepts_valid (readFile : Text → Dictionary (Option Text))
    (sources : Layers.Sources)
    (inRange : ∀ seconds, (Raw.ofSources readFile sources).cacheTtl = .integer seconds →
      seconds.natAbs < Binary64.overflow) :
    let raw := Raw.ofSources readFile sources
    (∀ settings, loadWith readFile sources = .ok settings ↔
        raw.Becomes settings ∧ Numeral.isShort settings.cacheMaxSize = true) ∧
      (loadWith readFile sources = .error .tooManyDigits ↔ raw.HasLongLevel ∨
        ∃ settings, raw.Becomes settings ∧ Numeral.isShort settings.cacheMaxSize = false) ∧
      ((¬∃ settings, raw.Becomes settings) → ¬raw.HasLongLevel →
        ∃ fault, loadWith readFile sources = .error fault ∧ fault.IsConfigError) := by
  intro raw
  have decides := loadWith_decides readFile sources
  refine ⟨decides.eq_ok_iff, (decides.eq_error_iff .tooManyDigits id).trans ⟨?_, ?_⟩, ?_⟩
  · intro escapes
    cases escapes with
    | level isLong => exact .inl isLong
    | size becomes isLong => exact .inr ⟨_, becomes, isLong⟩
  · rintro (isLong | ⟨settings, becomes, isLong⟩)
    · exact .level isLong
    · exact .size becomes isLong
  · intro refused isShort
    refine decides.exists_isConfigError ?_ ?_
    · rintro ⟨settings, becomes, _⟩
      exact refused ⟨settings, becomes⟩
    · rintro ⟨fault, overflows | isLong | ⟨becomes, _⟩⟩
      · obtain ⟨seconds, isInteger, isLarge⟩ := overflows.cacheTtl
        exact Nat.not_le.mpr (inRange seconds isInteger) isLarge
      · exact isShort isLong
      · exact refused ⟨_, becomes⟩

theorem loadWith_accepts_valid_whole :
    let readFile : Text → Dictionary (Option Text) := fun _ => [("U_STRICT", some "off")]
    let sources (size : Value) : Layers.Sources :=
      ⟨"U_", some "U_STRICT=off", [("U_CACHE_TTL", "60"), ("U_STRICT", "1")],
        [("log_level", .text "info"), ("cache_max_size", size)]⟩
    loadWith readFile (sources (.integer 5)) =
        .ok ⟨true, 5, some (.binary (.ofInt 60)), "INFO"⟩ ∧
      ∃ fault, loadWith readFile (sources (.boolean true)) = .error fault ∧
        fault.IsConfigError := by
  intro readFile sources
  have isSixty (size : Value) :
      (Raw.ofSources readFile (sources size)).cacheTtl = .integer 60 := rfl
  have isInRange : (60 : Int).natAbs < Binary64.overflow := by decide +kernel
  have inRange (size : Value) (seconds : Int)
      (same : (Raw.ofSources readFile (sources size)).cacheTtl = .integer seconds) :
      seconds.natAbs < Binary64.overflow := by
    cases (isSixty size).symm.trans same
    exact isInRange
  constructor
  · refine ((loadWith_accepts_valid _ _ (inRange _)).1 _).mpr ⟨?_, by decide +kernel⟩
    exact ⟨.one, rfl, by decide, .integer 60 isInRange, .text "info" (by decide +kernel)⟩
  · refine (loadWith_accepts_valid _ _ (inRange _)).2.2 ?_ fun isLong => ?_
    · rintro ⟨settings, becomes⟩
      cases becomes.cacheMaxSize
    · obtain ⟨size, isInteger⟩ := isLong.cacheMaxSize
      cases isInteger

/-- A size of ten to the power of 4300 is valid and still not loaded, and where it is taken for a
level of the log, it is refused without an error of the settings. -/
theorem loadWith_refuses_long_numbers :
    let readFile : Text → Dictionary (Option Text) := fun _ => []
    let long : Nat := 10 ^ Numeral.maximumDigits
    let size : Layers.Sources :=
      ⟨Layers.usualStart, none, [], [("cache_max_size", .integer (Int.ofNat long))]⟩
    let level : Layers.Sources :=
      ⟨Layers.usualStart, none, [], [("log_level", .integer (Int.ofNat long))]⟩
    (Raw.ofSources readFile size).Becomes ⟨true, Int.ofNat long, none, "WARNING"⟩ ∧
      (¬∃ settings, loadWith readFile size = .ok settings) ∧
      ¬∃ fault, loadWith readFile level = .error fault ∧ fault.IsConfigError := by
  intro readFile long size level
  have sizeFails : loadWith readFile size = .error .tooManyDigits := by decide +kernel
  have levelFails : loadWith readFile level = .error .tooManyDigits := by decide +kernel
  refine ⟨⟨.boolean true, rfl, Int.natCast_nonneg long, .null, .text "WARNING" (by decide +kernel)⟩,
    ?_, ?_⟩
  · rw [sizeFails]
    rintro ⟨settings, ⟨⟩⟩
  · rw [levelFails]
    rintro ⟨_, ⟨⟩, isConfigError⟩
    exact isConfigError

/-- What escapes from loading: the reader of the settings file refuses the file, or a winning value
escapes. -/
inductive Escapes (readFile : Layers.FileReader) (sources : Layers.Sources) : SettingsFault → Prop
  | file {message : Text} (refused : sources.read readFile = .error message) :
      Escapes readFile sources (.unreadableFile message)
  | value {found : Dictionary (Option Text)} {fault : SettingsFault}
      (isRead : sources.read readFile = .ok found)
      (escapes : (Raw.ofSources (fun _ => found) sources).Escapes fault) :
      Escapes readFile sources fault

/-- Loading fails with every fault that escapes, and this is no error of the settings. -/
theorem load_of_escapes {readFile : Layers.FileReader} {sources : Layers.Sources}
    {fault : SettingsFault} (escapes : Escapes readFile sources fault) :
    load readFile sources = .error fault ∧ ¬fault.IsConfigError := by
  cases escapes with
  | file refused => exact ⟨by rw [load, refused], id⟩
  | value isRead escapes =>
      rw [load, isRead]
      have isOther := escapes.not_isConfigError
      exact ⟨((loadWith_decides _ sources).eq_error_iff fault isOther).mpr escapes, isOther⟩

/-- If nothing escapes, settings are either loaded or refused with an error of the settings. -/
theorem loads_or_isConfigError {readFile : Layers.FileReader} {sources : Layers.Sources}
    (kept : ¬∃ fault, Escapes readFile sources fault) :
    (∃ settings, load readFile sources = .ok settings) ∨
      ∃ fault, load readFile sources = .error fault ∧ fault.IsConfigError := by
  cases isRead : sources.read readFile with
  | error message => exact absurd ⟨_, .file isRead⟩ kept
  | ok found =>
      have decides := loadWith_decides (fun _ => found) sources
      rw [load, isRead]
      by_cases loads : ∃ settings, loadWith (fun _ => found) sources = .ok settings
      · exact .inl loads
      · refine .inr (decides.exists_isConfigError (fun ⟨settings, accepted⟩ => loads ?_) ?_)
        · exact ⟨settings, (decides.eq_ok_iff settings).mpr accepted⟩
        · exact fun ⟨fault, escapes⟩ => kept ⟨fault, .value isRead escapes⟩

end Settings

namespace CommandLine

/-- The command line reports the errors of the settings. -/
theorem settingsFailure_of_isConfigError {fault : SettingsFault}
    (isConfigError : fault.IsConfigError) :
    settingsFailure fault = .crossed ("Invalid settings: " ++ fault.message) := by
  cases fault with
  | wrongType | unknownLevel | negativeSize => rfl
  | tooLarge | tooManyDigits | unreadableFile => exact isConfigError.elim

/-- Other faults end it without a word. -/
theorem settingsFailure_of_not_isConfigError {fault : SettingsFault}
    (escaped : ¬fault.IsConfigError) : settingsFailure fault = .silent := by
  cases fault with
  | wrongType | unknownLevel | negativeSize => exact absurd trivial escaped
  | tooLarge | tooManyDigits | unreadableFile => rfl

section RunCommand

variable {surroundings : Surroundings} {file : Option Text} (verbose : Bool)
  (command : Invocation → List Text → Outcome) (arguments : List Text)

/-- Without settings the command does not run. -/
theorem runCommand_of_error {fault : SettingsFault}
    (refused : Settings.load surroundings.readSettingsFile
      ⟨Layers.usualStart, file, surroundings.environment, []⟩ = .error fault) :
    runCommand surroundings verbose file command arguments = settingsFailure fault := by
  rw [runCommand, refused]

/-- The command runs with the settings that were loaded. -/
theorem runCommand_of_ok {settings : Settings}
    (loaded : Settings.load surroundings.readSettingsFile
      ⟨Layers.usualStart, file, surroundings.environment, []⟩ = .ok settings) :
    runCommand surroundings verbose file command arguments =
      command ⟨settings, verbose || settings.logLevel = Settings.debugLevel, surroundings⟩
        arguments := by
  rw [runCommand, loaded]

end RunCommand

end CommandLine

namespace Settings

/-- The failures that are no errors of the settings are those of the reader of the settings file, of
a whole number of seconds too large for binary64 numbers, and of a size or a level with too many
digits to be written, if nothing is wrong with the settings that are checked before. The command
line then ends without a word instead of telling what is wrong. -/
theorem load_escapes (readFile : Layers.FileReader) (sources : Layers.Sources)
    (surroundings : CommandLine.Surroundings) (verbose : Bool) (file : Option Text)
    (command : CommandLine.Invocation → List Text → CommandLine.Outcome)
    (arguments : List Text) :
    (∀ fault, Escapes readFile sources fault →
      load readFile sources = .error fault ∧ ¬fault.IsConfigError) ∧
    ((¬∃ fault, Escapes readFile sources fault) →
      (∃ settings, load readFile sources = .ok settings) ∨
        ∃ fault, load readFile sources = .error fault ∧ fault.IsConfigError) ∧
    let own : Layers.Sources := ⟨Layers.usualStart, file, surroundings.environment, []⟩
    let ownFile := surroundings.readSettingsFile
    let outcome := CommandLine.runCommand surroundings verbose file command arguments
    ((∃ fault, Escapes ownFile own fault) → outcome = .silent) ∧
    ((¬∃ fault, Escapes ownFile own fault) →
      (∃ invocation, load ownFile own = .ok invocation.settings ∧
        outcome = command invocation arguments) ∨
      ∃ fault, load ownFile own = .error fault ∧
        outcome = .crossed ("Invalid settings: " ++ fault.message)) := by
  refine ⟨fun _ => load_of_escapes, loads_or_isConfigError, ?_, fun kept => ?_⟩
  · rintro ⟨fault, escapes⟩
    obtain ⟨refused, escaped⟩ := load_of_escapes escapes
    exact (CommandLine.runCommand_of_error verbose command arguments refused).trans
      (CommandLine.settingsFailure_of_not_isConfigError escaped)
  · rcases loads_or_isConfigError kept with
      ⟨settings, isLoaded⟩ | ⟨fault, isRefused, isConfigError⟩
    · exact .inl ⟨⟨settings, verbose || settings.logLevel = debugLevel, surroundings⟩, isLoaded,
        CommandLine.runCommand_of_ok verbose command arguments isLoaded⟩
    · refine .inr ⟨fault, isRefused, ?_⟩
      exact (CommandLine.runCommand_of_error verbose command arguments isRefused).trans
        (CommandLine.settingsFailure_of_isConfigError isConfigError)

theorem load_escapes_each :
    let overflowing : Dictionary Text := [("URITPL_CACHE_TTL", Numeral.ofNat (10 ^ 309))]
    let readFile : Layers.FileReader := fun content =>
      if content = [] then .ok [] else .error "invalid start byte"
    let surroundings : CommandLine.Surroundings := ⟨overflowing, fun _ => none, readFile⟩
    let long : Layers.Sources := ⟨Layers.usualStart, none, [],
      [("cache_max_size", .integer (Int.ofNat (10 ^ Numeral.maximumDigits)))]⟩
    load readFile ⟨Layers.usualStart, none, overflowing, []⟩ = .error .tooLarge ∧
      load readFile long = .error .tooManyDigits ∧
      load readFile ⟨Layers.usualStart, some "\xff", [], []⟩ =
        .error (.unreadableFile "invalid start byte") ∧
      ∀ command arguments,
        CommandLine.runCommand surroundings false none command arguments = .silent := by
  intro overflowing readFile surroundings long
  have secondsOverflow (seconds : Nat) (isShort : Numeral.isShort seconds = true)
      (isLarge : Binary64.overflow ≤ seconds) : Escapes readFile ⟨Layers.usualStart, none,
        [("URITPL_CACHE_TTL", Numeral.ofNat seconds)], []⟩ .tooLarge :=
    .value rfl (.seconds ⟨⟨true, .boolean true⟩, ⟨1000, rfl⟩, seconds,
      Layers.convert_ofNat isShort, isLarge⟩)
  have overflows : Escapes readFile ⟨Layers.usualStart, none, overflowing, []⟩ .tooLarge :=
    secondsOverflow _ (by decide +kernel) (by decide +kernel)
  have becomes : (Raw.ofSources (fun _ => []) long).Becomes
      ⟨true, Int.ofNat (10 ^ Numeral.maximumDigits), none, "WARNING"⟩ :=
    ⟨.boolean true, rfl, Int.natCast_nonneg _, .null, .text "WARNING" (by decide +kernel)⟩
  have isTooLong : Escapes readFile long .tooManyDigits :=
    .value rfl (.size becomes (by decide +kernel))
  have escapes (sources : Layers.Sources) :=
    load_escapes readFile sources surroundings false none (fun _ _ => .usage) []
  refine ⟨((escapes _).1 _ overflows).1, ((escapes _).1 _ isTooLong).1,
    ((escapes _).1 _ (.file rfl)).1, fun command arguments => ?_⟩
  exact (load_escapes readFile long surroundings false none command arguments).2.2.1 ⟨_, overflows⟩

/-- A time to live of ten to the power of 309 seconds is refused, but not with an error of the
settings. -/
theorem load_escapes_power_of_ten :
    let digits : Text := "1" ++ List.replicate 309 (CodePoint.ofChar '0')
    let sources : Layers.Sources := ⟨Layers.usualStart, none, [("URITPL_CACHE_TTL", digits)], []⟩
    let readFile : Layers.FileReader := fun _ => .ok []
    ¬((∃ settings, load readFile sources = .ok settings) ∨
      ∃ fault, load readFile sources = .error fault ∧ fault.IsConfigError) := by
  intro digits sources readFile
  have fails : load readFile sources = .error .tooLarge := by decide +kernel
  rw [fails]
  rintro (⟨settings, loads⟩ | ⟨fault, same, isConfigError⟩)
  · cases loads
  · cases same
    exact isConfigError

end Settings

end UriTemplate
