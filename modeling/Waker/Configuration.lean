import Waker.FileSettings
import Waker.Ipv4Text
import Waker.Latest
import Waker.MacAddress
import Waker.Utf8
import Waker.Utf8Text
import Waker.WorkerThreads

namespace Waker

/-!
# From the profile file to a job

One file carries the WireGuard profile and Waker's own settings.  The app reads
the settings when it starts, lets the environment override them, and reads the
profile when a job is built.  The job takes the profile from the lines of the
profile and its addresses from the last assignments of the settings, however the
two kinds of lines are mixed.
-/

/-- What the app reads from the operating system; a path is a list of bytes. -/
structure AppEnvironment where
  var : String → Option (List Char)
  home : Option (List UInt8)
  readToString : List UInt8 → Except String (List Char)

/-- The byte that separates the components of a path. -/
def pathSeparator : UInt8 :=
  47

/-- `Path::join`. -/
def joinPath (base rest : List UInt8) : List UInt8 :=
  if rest.head? = some pathSeparator then
    rest
  else if base = [] ∨ base.getLast? = some pathSeparator then
    base ++ rest
  else
    base ++ pathSeparator :: rest

/-- `expand_home`. -/
def expandHome
    (environment : AppEnvironment)
    (value : List Char) : List UInt8 :=
  if value = ['~'] then
    environment.home.getD (Utf8.encode value)
  else
    match value, environment.home with
    | '~' :: '/' :: rest, some home => joinPath home (Utf8.encode rest)
    | _, _ => Utf8.encode value

/-- `load_waker_file_settings`. -/
def loadWakerFileSettings
    (environment : AppEnvironment)
    (configPath : List Char) : WakerFileSettings :=
  match environment.readToString (expandHome environment configPath) with
  | .error _ => .initial
  | .ok config => parseWakerFileSettings config

/-- The text fields of the app. -/
structure ConfigFields where
  configPath : List Char
  fritzIp : List Char
  pcMac : List Char
  deriving Repr, DecidableEq

/-- The path of the profile when the app starts. -/
def startPath
    (environment : AppEnvironment)
    (defaultConfigPath : Option (List UInt8)) : List Char :=
  (environment.var "WAKER_WG_CONFIG").getD
    (Utf8.decodeLossy
      (defaultConfigPath.getD (Utf8.encode "waker.local.conf".toList)))

/-- The text fields of `WakerApp::new`. -/
def ConfigFields.new
    (environment : AppEnvironment)
    (defaultConfigPath : Option (List UInt8)) : ConfigFields :=
  let configPath := startPath environment defaultConfigPath
  let settings := loadWakerFileSettings environment configPath
  {
    configPath := configPath
    fritzIp :=
      ((environment.var "WAKER_FRITZ_IP").or settings.fritzIp).getD
        "192.168.178.1".toList
    pcMac := ((environment.var "WAKER_PC_MAC").or settings.pcMac).getD []
  }

/-- `build_fritz_job`. -/
def buildFritzJob
    (decoder : ProfileDecoder)
    (environment : AppEnvironment)
    (fields : ConfigFields) : Except String FritzJob :=
  let configPath := expandHome environment fields.configPath
  match environment.readToString configPath with
  | .error error =>
      .error
        ("could not read WireGuard profile " ++
          String.ofList (Utf8.decodeLossy configPath) ++ ": " ++ error)
  | .ok config =>
      match WireGuardProfile.parse decoder config with
      | .error error => .error error.display
      | .ok profile =>
          match Ipv4Addr.fromStr (Text.trim fields.fritzIp) with
          | .error error =>
              .error ("invalid FRITZ!Box IPv4 address: " ++ error)
          | .ok fritzIp =>
              match MacAddress.fromStr (Text.trim fields.pcMac) with
              | .error error => .error (String.ofList error.display)
              | .ok mac => .ok ⟨profile, fritzIp, mac⟩

/-- `build_job`. -/
def buildJob
    (decoder : ProfileDecoder)
    (environment : AppEnvironment)
    (fields : ConfigFields) : Except String WakeJob :=
  (buildFritzJob decoder environment fields).map WakeJob.ofFritz

/-- The value that a line assigns to a setting. -/
def assigned? (field : WakerField) (rawLine : List Char) : Option (List Char) :=
  match Text.splitOnce '=' (stripLine rawLine) with
  | none => none
  | some (key, value) =>
      if wakerField? (Text.trim key) = some field then
        some (Text.trim value)
      else
        none

/-- The value of a setting: that of the last line that assigns it. -/
def lastAssigned (field : WakerField) (text : List Char) : Option (List Char) :=
  Latest.latest (assigned? field) (Text.lines text)

/-- The value of a setting in the lines of a file that the profile leaves. -/
def settingAtStart
    (environment : AppEnvironment)
    (configPath : List Char)
    (field : WakerField) : Option (List Char) :=
  match environment.readToString (expandHome environment configPath) with
  | .error _ => none
  | .ok text => lastAssigned field (deleteProfileLines text)

/-- The value of a field of the settings. -/
def WakerFileSettings.get (settings : WakerFileSettings) :
    WakerField → Option (List Char)
  | .fritzIp => settings.fritzIp
  | .pcMac => settings.pcMac

/-- A line overwrites the setting that it assigns. -/
theorem get_readSettingsLine
    (field : WakerField)
    (settings : WakerFileSettings)
    (rawLine : List Char) :
    (readSettingsLine settings rawLine).get field =
      (assigned? field rawLine).or (settings.get field) := by
  unfold readSettingsLine assigned?
  cases found : Text.splitOnce '=' (stripLine rawLine) with
  | none =>
      rfl
  | some parts =>
      obtain ⟨key, value⟩ := parts
      cases recognised : wakerField? (Text.trim key) with
      | none =>
          simp [recognised]
      | some other =>
          cases field <;> cases other <;>
            simp [recognised, WakerFileSettings.get,
              WakerFileSettings.assign]

/-- Every setting has the value of the last line that assigns it. -/
theorem get_parseWakerFileSettings
    (field : WakerField)
    (text : List Char) :
    (parseWakerFileSettings text).get field = lastAssigned field text := by
  have folded :=
    Latest.foldl_overwrite
      (fun settings : WakerFileSettings => settings.get field)
      (assigned? field) (get_readSettingsLine field) (Text.lines text)
      .initial
  have nothing : WakerFileSettings.initial.get field = none := by
    cases field <;> rfl
  rw [nothing, Option.or_none] at folded
  exact folded

/-- The settings are read from the lines that the profile leaves. -/
theorem get_loadWakerFileSettings
    (environment : AppEnvironment)
    (configPath : List Char)
    (field : WakerField) :
    (loadWakerFileSettings environment configPath).get field =
      settingAtStart environment configPath field := by
  unfold loadWakerFileSettings settingAtStart
  split
  · cases field <;> rfl
  · rename_i text _
    rw [← parseWakerFileSettings_deleteProfileLines text]
    exact get_parseWakerFileSettings field (deleteProfileLines text)

/-- Results that differ in a line number succeed alike. -/
theorem SameUpToLineNumber.ok_iff
    {α : Type}
    {first second : Except NetError α}
    (same : SameUpToLineNumber first second)
    (value : α) :
    first = .ok value ↔ second = .ok value := by
  cases same with
  | same =>
      exact Iff.rfl
  | renumbered firstLine secondLine =>
      constructor
      · intro impossible
        cases impossible
      · intro impossible
        cases impossible

/-- The text of a field when the app starts. -/
def textAtStart
    (environment : AppEnvironment)
    (configPath : List Char) : WakerField → List Char
  | .fritzIp =>
      ((environment.var "WAKER_FRITZ_IP").or
        (settingAtStart environment configPath .fritzIp)).getD
        "192.168.178.1".toList
  | .pcMac =>
      ((environment.var "WAKER_PC_MAC").or
        (settingAtStart environment configPath .pcMac)).getD []

/-- The fields of a new app are those texts. -/
theorem fields_new
    (environment : AppEnvironment)
    (defaultConfigPath : Option (List UInt8)) :
    ConfigFields.new environment defaultConfigPath =
      let configPath := startPath environment defaultConfigPath
      ⟨configPath, textAtStart environment configPath .fritzIp,
        textAtStart environment configPath .pcMac⟩ := by
  have settings :=
    get_loadWakerFileSettings environment
      (startPath environment defaultConfigPath)
  have fritzIp := settings .fritzIp
  have pcMac := settings .pcMac
  dsimp only [WakerFileSettings.get] at fritzIp pcMac
  simp only [ConfigFields.new, textAtStart, fritzIp, pcMac]

/--
A job is built from the fields exactly when the profile without the lines of the
settings is one, and both addresses are well formed.
-/
theorem buildFritzJob_eq_ok_iff
    {decoder : ProfileDecoder}
    {environment : AppEnvironment}
    {fields : ConfigFields}
    {job : FritzJob} :
    buildFritzJob decoder environment fields = .ok job ↔
      ∃ text,
        environment.readToString
            (expandHome environment fields.configPath) = .ok text ∧
          WireGuardProfile.parse decoder (deleteWakerLines text) =
            .ok job.profile ∧
          Ipv4Addr.fromStr (Text.trim fields.fritzIp) = .ok job.fritzIp ∧
          MacAddress.fromStr (Text.trim fields.pcMac) = .ok job.mac := by
  constructor
  · intro built
    unfold buildFritzJob at built
    dsimp only at built
    split at built
    · cases built
    · rename_i text read
      split at built
      · cases built
      · rename_i profile parsed
        split at built
        · cases built
        · rename_i fritzIp fritzIpRead
          split at built
          · cases built
          · rename_i mac macRead
            cases built
            refine ⟨text, read, ?_, fritzIpRead, macRead⟩
            exact ((parse_deleteWakerLines decoder text).ok_iff _).mp parsed
  · rintro ⟨text, read, parsed, fritzIpRead, macRead⟩
    have whole :=
      ((parse_deleteWakerLines decoder text).ok_iff _).mpr parsed
    simp only [buildFritzJob, read, whole, fritzIpRead, macRead]

/-- A wake job is the job of a check with the default timing. -/
theorem buildJob_eq_ok_iff
    {decoder : ProfileDecoder}
    {environment : AppEnvironment}
    {fields : ConfigFields}
    {job : WakeJob} :
    buildJob decoder environment fields = .ok job ↔
      buildFritzJob decoder environment fields = .ok job.fritz ∧
        job.target = .new job.fritz.mac := by
  rw [buildJob]
  generalize buildFritzJob decoder environment fields = built
  obtain ⟨fritz, target⟩ := job
  cases built with
  | error error =>
      simp [Except.map]
  | ok other =>
      simp only [Except.map, WakeJob.ofFritz, Except.ok.injEq,
        WakeJob.mk.injEq]
      constructor
      · rintro ⟨rfl, rfl⟩
        exact ⟨rfl, rfl⟩
      · rintro ⟨rfl, rfl⟩
        exact ⟨rfl, rfl⟩

/-- What a job is made of, for an app that started in another environment. -/
structure JobDescribes
    (decoder : ProfileDecoder)
    (atStart now : AppEnvironment)
    (configPath : List Char)
    (job : WakeJob) : Prop where
  profile :
    ∃ text,
      now.readToString (expandHome now configPath) = .ok text ∧
        WireGuardProfile.parse decoder (deleteWakerLines text) =
          .ok job.fritz.profile
  fritzIp :
    Ipv4Addr.fromStr (Text.trim (textAtStart atStart configPath .fritzIp)) =
      .ok job.fritz.fritzIp
  mac :
    MacAddress.fromStr (Text.trim (textAtStart atStart configPath .pcMac)) =
      .ok job.fritz.mac
  target : job.target = .new job.fritz.mac

/--
A new app builds exactly the job that the file and the environment describe: the
profile lines alone make the profile, and each address is the one in the
environment, or else the last one assigned in the lines that are not the
profile's, or else the default.
-/
theorem buildJob_new_eq_ok_iff
    (decoder : ProfileDecoder)
    (atStart now : AppEnvironment)
    (defaultConfigPath : Option (List UInt8))
    (job : WakeJob) :
    buildJob decoder now (.new atStart defaultConfigPath) = .ok job ↔
      JobDescribes decoder atStart now (startPath atStart defaultConfigPath)
        job := by
  rw [fields_new, buildJob_eq_ok_iff, buildFritzJob_eq_ok_iff]
  constructor
  · rintro ⟨⟨text, read, parsed, fritzIp, mac⟩, target⟩
    exact ⟨⟨text, read, parsed⟩, fritzIp, mac, target⟩
  · rintro ⟨⟨text, read, parsed⟩, fritzIp, mac, target⟩
    exact ⟨⟨text, read, parsed, fritzIp, mac⟩, target⟩

end Waker
