import ApiLoad.Program
import ApiLoad.Proofs.Except
import ApiLoad.Proofs.Number.Reading
import Mathlib.Data.List.Basic

/-!
# Where a setting comes from

An option on the command line gives a setting, else its variable does if that reads, else the default
stands. No setting depends on the option or the variable of another, and each variable that is set and
does not read is warned about, also where an option makes up for it.
-/
set_option autoImplicit false

namespace ApiLoad

namespace OptionName

def variableName : OptionName → String
  | .openapi => "TRAFFIC_OPENAPI"
  | .baseUrl => "TRAFFIC_BASE_URL"
  | .rpcUrl => "TRAFFIC_RPC_URL"
  | .workers => "TRAFFIC_WORKERS"
  | .rate => "TRAFFIC_RATE"
  | .rpcWorkers => "TRAFFIC_RPC_WORKERS"
  | .rpcRate => "TRAFFIC_RPC_RATE"
  | .timeout => "TRAFFIC_TIMEOUT_SECS"

/-- The settings that are numbers, in the order in which their variables are read. -/
def numeric : List OptionName := [.workers, .rate, .rpcWorkers, .rpcRate, .timeout]

/-- What the text of a variable says: a text is taken as it is, a number is trimmed. -/
inductive Says : OptionName → String → OptionValue → Prop
  | text {name : OptionName} {raw : String} (h : name ∉ numeric) : Says name raw (.text raw)
  | natural {name : OptionName} {raw : String} {n : Nat} (hName : name ∈ [workers, rpcWorkers, timeout])
      (h : SpellsNatural (Text.trim raw.toList) n) : Says name raw (.natural n)
  | double {name : OptionName} {raw : String} {x : Binary64} (hName : name ∈ [rate, rpcRate])
      (h : Binary64.Spells (Text.trim raw.toList) x) : Says name raw (.double x)

theorem variableName_injective : Function.Injective OptionName.variableName := by
  intro first second h
  cases first <;> cases second <;> first | rfl | exact absurd h (by decide)

end OptionName

inductive SettingValue
  | text (value : String)
  | natural (value : Nat)
  | double (value : Binary64)
  | duration (value : Duration)

/-- The number of a duration counts its seconds. -/
def SettingValue.shown : SettingValue → String
  | .text value => value
  | .natural value => natText value
  | .double value => value.logText
  | .duration value => natText (value.nanoseconds / 1000000000)

/-- What the value of an option makes of a setting. A time is given in seconds. -/
def OptionName.setting (name : OptionName) : OptionValue → SettingValue
  | .text value => .text value
  | .natural value => if name = .timeout then .duration (.ofSeconds value) else .natural value
  | .double value => .double value

def Settings.get (s : Settings) : OptionName → SettingValue
  | .openapi => .text s.description
  | .baseUrl => .text s.events.baseUrl
  | .rpcUrl => .text s.queries.baseUrl
  | .workers => .natural s.events.workers
  | .rate => .double s.events.rate
  | .rpcWorkers => .natural s.queries.workers
  | .rpcRate => .double s.queries.rate
  | .timeout => .duration s.timeout

def Overrides.get? (o : Overrides) : OptionName → Option OptionValue
  | .openapi => o.description.map .text
  | .baseUrl => o.eventUrl.map .text
  | .rpcUrl => o.queryUrl.map .text
  | .workers => o.eventWorkers.map .natural
  | .rate => o.eventRate.map .double
  | .rpcWorkers => o.queryWorkers.map .natural
  | .rpcRate => o.queryRate.map .double
  | .timeout => o.seconds.map .natural

/-- The value of a setting, by the first of its layers that gives one. -/
inductive Layered (env : Environment) (overrides : Overrides) (name : OptionName) :
    SettingValue → Prop
  | flag {value : OptionValue} (h : overrides.get? name = some value) :
      Layered env overrides name (name.setting value)
  | environment {raw : String} {value : OptionValue} (hFlag : overrides.get? name = none)
      (hRaw : env.lookup name.variableName = some raw) (h : name.Says raw value) :
      Layered env overrides name (name.setting value)
  | fallback (hFlag : overrides.get? name = none)
      (h : ∀ raw value, env.lookup name.variableName = some raw → ¬name.Says raw value) :
      Layered env overrides name (Settings.defaults.get name)

/-- A variable is set to a text that does not read, and the warning about it. -/
inductive Misread (env : Environment) (name : OptionName) : Log.Entry → Prop
  | mk {raw : String} (hRaw : env.lookup name.variableName = some raw)
      (h : ∀ value, ¬name.Says raw value) :
      Misread env name
        (Environment.warning name.variableName raw (Settings.defaults.get name).shown)

namespace OptionName

def said? : OptionName → String → Option OptionValue
  | .openapi, raw | .baseUrl, raw | .rpcUrl, raw => some (.text raw)
  | .workers, raw | .rpcWorkers, raw | .timeout, raw =>
    (ApiLoad.natural? (Text.trim raw.toList)).map .natural
  | .rate, raw | .rpcRate, raw => (Binary64.read? (Text.trim raw.toList)).map .double

theorem said?_eq_some_iff {name : OptionName} {raw : String} {value : OptionValue} :
    name.said? raw = some value ↔ name.Says raw value := by
  constructor
  · intro h
    cases name
    case openapi | baseUrl | rpcUrl =>
      obtain rfl := Option.some.inj h
      exact .text (by decide)
    case workers | rpcWorkers | timeout =>
      obtain ⟨n, hRead, rfl⟩ := Option.map_eq_some_iff.1 h
      exact .natural (by decide) (natural?_eq_some_iff.1 hRead)
    case rate | rpcRate =>
      obtain ⟨x, hRead, rfl⟩ := Option.map_eq_some_iff.1 h
      exact .double (by decide) (Binary64.read?_eq_some_iff.1 hRead)
  · rintro (hName | ⟨hName, h⟩ | ⟨hName, h⟩)
    · cases name <;> first | rfl | exact absurd (by decide) hName
    · have hRead := congrArg (Option.map OptionValue.natural) (natural?_eq_some_iff.2 h)
      cases name <;> first | exact absurd hName (by decide) | exact hRead
    · have hRead := congrArg (Option.map OptionValue.double) (Binary64.read?_eq_some_iff.2 h)
      cases name <;> first | exact absurd hName (by decide) | exact hRead

end OptionName

def Environment.said? (env : Environment) (name : OptionName) : Option OptionValue :=
  (env.lookup name.variableName).bind name.said?

def Environment.complaint? (env : Environment) (name : OptionName) : Option Log.Entry :=
  (env.lookup name.variableName).bind fun raw =>
    match name.said? raw with
    | some _ => none
    | none => some (warning name.variableName raw (Settings.defaults.get name).shown)

section Number

variable {α : Type} (env : Environment) (variableName : String) (read? : List Char → Option α)
  (render : α → String) (fallback : α) (wrap : α → OptionValue)

theorem Environment.number_value (make : OptionValue → SettingValue) :
    make (wrap (env.number variableName read? render fallback).value) =
      (((env.lookup variableName).bind fun raw => (read? (Text.trim raw.toList)).map wrap).map make).getD
        (make (wrap fallback)) := by
  unfold number
  cases env.lookup variableName with
  | none => rfl
  | some raw =>
    dsimp only [Option.bind_some]
    cases read? (Text.trim raw.toList) <;> rfl

theorem Environment.number_warnings :
    (env.number variableName read? render fallback).warnings =
      ((env.lookup variableName).bind fun raw =>
        match (read? (Text.trim raw.toList)).map wrap with
        | some _ => none
        | none => some (warning variableName raw (render fallback))).toList := by
  unfold number
  cases env.lookup variableName with
  | none => rfl
  | some raw =>
    dsimp only [Option.bind_some]
    cases read? (Text.trim raw.toList) <;> rfl

end Number

theorem Environment.text_value (env : Environment) (variableName fallback : String)
    (make : OptionValue → SettingValue) : make (.text (env.text variableName fallback)) =
      (((env.lookup variableName).bind fun raw => some (.text raw)).map make).getD
        (make (.text fallback)) := by
  unfold text
  cases env.lookup variableName <;> rfl

theorem Environment.get_settings (env : Environment) (name : OptionName) :
    env.settings.value.get name =
      ((env.said? name).map name.setting).getD (Settings.defaults.get name) := by
  cases name with
  | openapi => exact env.text_value _ _ (OptionName.setting .openapi)
  | baseUrl => exact env.text_value _ _ (OptionName.setting .baseUrl)
  | rpcUrl => exact env.text_value _ _ (OptionName.setting .rpcUrl)
  | workers => exact env.number_value _ _ natText _ .natural (OptionName.setting .workers)
  | rate => exact env.number_value _ _ Binary64.logText _ .double (OptionName.setting .rate)
  | rpcWorkers => exact env.number_value _ _ natText _ .natural (OptionName.setting .rpcWorkers)
  | rpcRate => exact env.number_value _ _ Binary64.logText _ .double (OptionName.setting .rpcRate)
  | timeout => exact env.number_value _ _ natText _ .natural (OptionName.setting .timeout)

theorem Environment.warnings_settings (env : Environment) :
    env.settings.warnings = OptionName.numeric.filterMap env.complaint? := by
  have hNatural (name : String) (fallback : Nat) :=
    env.number_warnings name ApiLoad.natural? natText fallback .natural
  have hDouble (name : String) (fallback : Binary64) :=
    env.number_warnings name Binary64.read? Binary64.logText fallback .double
  rw [List.filterMap_eq_flatMap_toList]
  simp only [settings, natural, double, hNatural, hDouble, OptionName.numeric, List.flatMap_cons,
    List.flatMap_nil, List.append_nil, List.append_assoc]
  rfl

theorem Overrides.get_apply (o : Overrides) (s : Settings) (name : OptionName) :
    (o.apply s).get name = ((o.get? name).map name.setting).getD (s.get name) := by
  obtain ⟨description, eventUrl, queryUrl, eventWorkers, eventRate, queryWorkers, queryRate, seconds⟩ := o
  cases name with
  | openapi => cases description <;> rfl
  | baseUrl => cases eventUrl <;> rfl
  | rpcUrl => cases queryUrl <;> rfl
  | workers => cases eventWorkers <;> rfl
  | rate => cases eventRate <;> rfl
  | rpcWorkers => cases queryWorkers <;> rfl
  | rpcRate => cases queryRate <;> rfl
  | timeout => cases seconds <;> rfl

theorem Environment.lookup_ofSystem (names : List String) (value? : String → Option (List UInt8))
    {name : String} (h : name ∈ names) :
    (ofSystem names value?).lookup name = (value? name).bind Text.Utf8.decode? := by
  induction names with
  | nil => cases h
  | cons first rest ih =>
    unfold ofSystem at ih ⊢
    rw [List.filterMap_cons]
    cases hText : (value? first).bind Text.Utf8.decode? with
    | none =>
      rw [Option.map_none]
      rcases List.mem_cons.1 h with rfl | hRest
      · rw [hText]
        refine List.lookup_eq_none_iff.2 fun entry hEntry => ?_
        obtain ⟨other, -, hOther⟩ := List.mem_filterMap.1 hEntry
        obtain ⟨text, hSome, rfl⟩ := Option.map_eq_some_iff.1 hOther
        refine bne_iff_ne.2 ?_
        rintro rfl
        rw [hText] at hSome
        cases hSome
      · exact ih hRest
    | some text =>
      rw [Option.map_some, List.lookup_cons]
      by_cases hName : name = first
      · rw [hName, hText]
        simp
      · rw [beq_false_of_ne hName]
        exact ih ((List.mem_cons.1 h).resolve_left hName)

namespace Given

/-- Every option has a value that was read for it. -/
def Typed (given : Given) : Prop := ∀ entry ∈ given, ∃ raw, entry.1.read? raw = some entry.2

theorem typed_nil : Typed [] := fun _ hEntry => absurd hEntry (List.not_mem_nil)

theorem Typed.settle {given after : Given} (hTyped : given.Typed) {pending : Pending}
    (h : given.settle pending = .ok after) : after.Typed := by
  unfold Given.settle at h
  split at h
  · obtain rfl := Except.ok.inj h
    exact hTyped
  · cases h
  · split at h
    · cases h
    · split at h
      · cases h
      · next hRead =>
        obtain rfl := Except.ok.inj h
        intro entry hEntry
        rcases List.mem_append.1 hEntry with hEntry | hEntry
        · exact hTyped entry hEntry
        · obtain rfl := List.mem_singleton.1 hEntry
          exact ⟨_, hRead⟩

theorem Typed.beginOption {given after : Given} (hTyped : given.Typed) {pending left : Pending}
    {name : OptionName} {value : Option String}
    (h : ApiLoad.beginOption given pending name value = .ok (after, left)) : after.Typed := by
  obtain ⟨settled, hSettled, h⟩ := bind_eq_ok h
  cases value with
  | none =>
    obtain ⟨rfl, -⟩ := Prod.mk.inj (Except.ok.inj h)
    exact hTyped.settle hSettled
  | some value =>
    obtain ⟨last, hLast, h⟩ := bind_eq_ok h
    obtain ⟨rfl, -⟩ := Prod.mk.inj (Except.ok.inj h)
    exact (hTyped.settle hSettled).settle hLast

theorem not_askHelp {α : Type} {given : Given} {pending : Pending} {a : α} :
    askHelp given pending ≠ .ok a := by
  intro h
  obtain ⟨_, -, h⟩ := bind_eq_ok h
  cases h

theorem Typed.readOptions {known : List OptionName} {words : List String} {given after : Given}
    {pending : Pending} (hTyped : given.Typed)
    (h : ApiLoad.readOptions known given pending words = .ok after) : after.Typed := by
  induction words generalizing given pending with
  | nil => exact hTyped.settle h
  | cons text rest ih =>
    unfold ApiLoad.readOptions at h
    split at h
    · split at h
      · exact hTyped.settle h
      · cases h
    · exact absurd h not_askHelp
    · cases h
    · split at h
      · cases h
      · obtain ⟨⟨begun, left⟩, hBegun, h⟩ := bind_eq_ok h
        exact ih (hTyped.beginOption hBegun) h
    · exact absurd h not_askHelp
    · split at h
      · cases h
      · obtain ⟨⟨begun, left⟩, hBegun, h⟩ := bind_eq_ok h
        exact ih (hTyped.beginOption hBegun) h
    · split at h
      · exact ih hTyped h
      · cases h

theorem Typed.get?_ofGiven {given : Given} (hTyped : given.Typed) (name : OptionName) :
    (Overrides.ofGiven given).get? name = given.lookup name := by
  have hRead : ∀ value, given.lookup name = some value → ∃ raw, name.read? raw = some value := by
    intro value h
    obtain ⟨before, after, rfl, -⟩ := List.lookup_eq_some_iff.1 h
    exact hTyped (name, value) (List.mem_append_right _ (List.mem_cons_self ..))
  cases name with
  | openapi | baseUrl | rpcUrl =>
    simp only [Overrides.get?, Overrides.ofGiven, text?]
    cases hLookup : given.lookup _ with
    | none => rfl
    | some value =>
      obtain ⟨raw, hValue⟩ := hRead value hLookup
      obtain rfl := Option.some.inj hValue
      rfl
  | workers | rpcWorkers | timeout =>
    simp only [Overrides.get?, Overrides.ofGiven, natural?]
    cases hLookup : given.lookup _ with
    | none => rfl
    | some value =>
      obtain ⟨raw, hValue⟩ := hRead value hLookup
      obtain ⟨n, -, rfl⟩ := Option.map_eq_some_iff.1 hValue
      rfl
  | rate | rpcRate =>
    simp only [Overrides.get?, Overrides.ofGiven, double?]
    cases hLookup : given.lookup _ with
    | none => rfl
    | some value =>
      obtain ⟨raw, hValue⟩ := hRead value hLookup
      obtain ⟨x, -, rfl⟩ := Option.map_eq_some_iff.1 hValue
      rfl

end Given

theorem layered_iff {env : Environment} {overrides : Overrides} {name : OptionName}
    {value : SettingValue} : Layered env overrides name value ↔
      ((overrides.get? name).map name.setting).getD
        (((env.said? name).map name.setting).getD (Settings.defaults.get name)) = value := by
  have hSaid (said : OptionValue) : env.said? name = some said ↔
      ∃ raw, env.lookup name.variableName = some raw ∧ name.Says raw said := by
    simp only [Environment.said?, Option.bind_eq_some_iff, OptionName.said?_eq_some_iff]
  constructor
  · rintro (hFlag | ⟨hFlag, hRaw, h⟩ | ⟨hFlag, h⟩)
    · rw [hFlag, Option.map_some, Option.getD_some]
    · rw [hFlag, (hSaid _).2 ⟨_, hRaw, h⟩]
      rfl
    · have hNone : env.said? name = none := Option.eq_none_iff_forall_ne_some.2 fun said hSome => by
        obtain ⟨raw, hRaw, hSays⟩ := (hSaid said).1 hSome
        exact h raw said hRaw hSays
      rw [hFlag, hNone]
      rfl
  · rintro rfl
    cases hFlag : overrides.get? name with
    | some value => exact .flag hFlag
    | none =>
      cases hEnv : env.said? name with
      | some value =>
        obtain ⟨raw, hRaw, h⟩ := (hSaid value).1 hEnv
        exact .environment hFlag hRaw h
      | none =>
        refine .fallback hFlag fun raw value hRaw h => ?_
        rw [(hSaid value).2 ⟨raw, hRaw, h⟩] at hEnv
        cases hEnv

theorem misread_iff {env : Environment} {name : OptionName} {line : Log.Entry} :
    Misread env name line ↔ env.complaint? name = some line := by
  unfold Environment.complaint?
  constructor
  · rintro ⟨hRaw, h⟩
    have hNone := Option.eq_none_iff_forall_ne_some.2 fun value hSome =>
      h value (OptionName.said?_eq_some_iff.1 hSome)
    rw [hRaw, Option.bind_some, hNone]
  · intro h
    obtain ⟨raw, hRaw, h⟩ := Option.bind_eq_some_iff.1 h
    split at h
    · cases h
    · next hNone =>
      obtain rfl := Option.some.inj h
      refine .mk hRaw fun value hSays => ?_
      rw [OptionName.said?_eq_some_iff.2 hSays] at hNone
      cases hNone

theorem Misread.level {env : Environment} {name : OptionName} {line : Log.Entry}
    (h : Misread env name line) : line.level = .warn := by
  cases h
  rfl

namespace Program

theorem get_settings (env : Environment) (overrides : Overrides) (name : OptionName) :
    (settings env overrides).1.get name =
      ((overrides.get? name).map name.setting).getD
        (((env.said? name).map name.setting).getD (Settings.defaults.get name)) := by
  rw [settings, Overrides.get_apply, Environment.get_settings]

theorem warnings_start (world : World) (overrides : Overrides) :
    (start world overrides).before.filter (·.level = .warn) =
      (settings world.environment overrides).2 := by
  have hLevel : ∀ line ∈ world.environment.settings.warnings, line.level = .warn := by
    intro line hLine
    rw [Environment.warnings_settings] at hLine
    obtain ⟨name, -, h⟩ := List.mem_filterMap.1 hLine
    exact (misread_iff.2 h).level
  have hAll : world.environment.settings.warnings.filter (·.level = .warn) =
      world.environment.settings.warnings :=
    List.filter_eq_self.2 fun line hLine => decide_eq_true (hLevel line hLine)
  unfold start settings
  dsimp only
  split
  · exact hAll
  · split <;> simp [List.filter_append, hAll, Log.info]

/-- Each setting has its first layer, for every environment and every combination of options, and the
warnings name the variables that do not read. -/
theorem settings_take_precedence (world : World) (overrides : Overrides) :
    (∀ name value, (settings world.environment overrides).1.get name = value ↔
      Layered world.environment overrides name value) ∧
    (∀ env other name, env.lookup (OptionName.variableName name) =
        world.environment.lookup (OptionName.variableName name) →
      Overrides.get? other name = overrides.get? name →
      (settings env other).1.get name = (settings world.environment overrides).1.get name) ∧
    Function.Injective OptionName.variableName ∧
    (∃ line? : OptionName → Option Log.Entry,
      (∀ name line, line? name = some line ↔ Misread world.environment name line) ∧
      (settings world.environment overrides).2 =
        [.workers, .rate, .rpcWorkers, .rpcRate, .timeout].filterMap line?) ∧
    (start world overrides).before.filter (·.level = .warn) =
      (settings world.environment overrides).2 ∧
    (∀ reason, (settings world.environment overrides).1.validate = .error reason →
      (start world overrides).result = .error (rejected reason)) ∧
    (∀ words, Command.parse ("run" :: words) = .ok (.run overrides) →
      ∃ given, readOptions Command.runOptions [] none words = .ok given ∧
        ∀ name, overrides.get? name = given.lookup name) ∧
    (∀ names value? name, name ∈ names → (Environment.ofSystem names value?).lookup name =
      (value? name).bind Text.Utf8.decode?) ∧
    Settings.defaults =
      ⟨"openapi.yaml", ⟨"http://localhost:8080", 1, .ofNat 1⟩, ⟨"http://localhost:8081", 0, .ofNat 1⟩,
        .ofSeconds 5⟩ := by
  refine ⟨fun name value => ?_, fun env other name hEnv hOther => ?_,
    OptionName.variableName_injective, ⟨world.environment.complaint?, fun name line => misread_iff.symm,
      world.environment.warnings_settings⟩, warnings_start world overrides, fun reason hReason => ?_,
    fun words hWords => ?_, fun names value? name hName => Environment.lookup_ofSystem names value? hName,
    rfl⟩
  · rw [get_settings, layered_iff]
  · rw [get_settings, get_settings, hOther, Environment.said?, hEnv, Environment.said?]
  · simp only [start, hReason]
  · obtain ⟨given, hGiven, h⟩ := bind_eq_ok hWords
    obtain rfl := Command.run.inj (Except.ok.inj h)
    exact ⟨given, hGiven, (Given.Typed.readOptions Given.typed_nil hGiven).get?_ofGiven⟩

end Program
end ApiLoad
