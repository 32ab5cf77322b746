import WorkerMemory.Proofs.Outcome
import WorkerMemory.Proofs.Settings.Environment
import WorkerMemory.Settings.Load

/-! # The environment in front of the file

A setting comes from its variable, else from the file, else it has its default. What the file says of
a setting that has a variable does not matter, whatever kind of value it is.
-/

namespace WorkerMemory

/-! ## The settings one by one -/

inductive Setting where
  | program
  | intervalSecs
  | storage
  | logLevel
  | logFile
  deriving DecidableEq, Repr

namespace Setting

/-- The name in files, and in lower case that of the variable. -/
def name : Setting → String
  | program => "ps_program"
  | intervalSecs => "interval_secs"
  | storage => "storage"
  | logLevel => "log_level"
  | logFile => "log_file"

abbrev Value : Setting → Type
  | intervalSecs => UInt64
  | program | storage => String
  | logLevel | logFile => Option String

def get (s : Settings) : (setting : Setting) → setting.Value
  | program => s.program
  | intervalSecs => s.intervalSecs
  | storage => s.storage
  | logLevel => s.logLevel
  | logFile => s.logFile

def convert : (setting : Setting) → Loose → Except Loose.Misfit setting.Value
  | intervalSecs => Loose.toCount
  | program | storage => Loose.toText
  | logLevel | logFile => Loose.toOptionalText

theorem exists_misfit {v : Loose} (h : v.hasParts) (setting : Setting) :
    ∃ misfit, setting.convert v = .error misfit := by
  cases v with
  | list | table => cases setting <;> exact ⟨_, rfl⟩
  | null | bool | int | float | text => contradiction

end Setting

/-! ## Reading off -/

namespace Layers

theorem read_of_settings {layers : Layers} {s : Settings} (h : layers.settings = .ok s)
    (setting : Setting) :
    layers.read setting.name (setting.get {}) setting.convert = .ok (setting.get s) := by
  unfold settings at h
  obtain ⟨program, hprogram, h⟩ := exists_of_bind_eq_ok h
  obtain ⟨intervalSecs, hinterval, h⟩ := exists_of_bind_eq_ok h
  obtain ⟨storage, hstorage, h⟩ := exists_of_bind_eq_ok h
  obtain ⟨logLevel, hlevel, h⟩ := exists_of_bind_eq_ok h
  obtain ⟨logFile, hfile, h⟩ := exists_of_bind_eq_ok h
  cases h
  cases setting with
  | program => exact hprogram
  | intervalSecs => exact hinterval
  | storage => exact hstorage
  | logLevel => exact hlevel
  | logFile => exact hfile

theorem convert_of_settings {layers : Layers} {s : Settings} (h : layers.settings = .ok s)
    {setting : Setting} {entry : Entry} (hentry : layers.get? setting.name = some entry) :
    setting.convert entry.value = .ok (setting.get s) := by
  have hread := read_of_settings h setting
  simp only [read, hentry] at hread
  rwa [mapError_eq_ok_iff] at hread

theorem not_hasParts_of_settings {layers : Layers} {s : Settings} (h : layers.settings = .ok s)
    {setting : Setting} {entry : Entry} (hentry : layers.get? setting.name = some entry) :
    ¬ entry.value.hasParts := by
  intro hparts
  obtain ⟨misfit, hmisfit⟩ := setting.exists_misfit hparts
  rw [convert_of_settings h hentry] at hmisfit
  contradiction

theorem get_of_isUnnamed {layers : Layers} {s : Settings} (h : layers.settings = .ok s)
    {setting : Setting} (hunnamed : layers.IsUnnamed setting.name) :
    setting.get s = setting.get {} := by
  have hread := read_of_settings h setting
  unfold read at hread
  cases hentry : layers.get? setting.name with
  | none =>
    rw [hentry] at hread
    exact (Except.ok.inj hread).symm
  | some entry => exact absurd (hunnamed entry hentry) (not_hasParts_of_settings h hentry)

theorem settings_congr {layers layers' : Layers}
    (same : ∀ setting : Setting, layers.get? setting.name = layers'.get? setting.name) :
    layers.settings = layers'.settings := by
  have hread (setting : Setting) : layers.read setting.name (setting.get {}) setting.convert =
      layers'.read setting.name (setting.get {}) setting.convert := by
    rw [read, read, same]
  have hprogram := hread .program
  have hinterval := hread .intervalSecs
  have hstorage := hread .storage
  have hlevel := hread .logLevel
  have hfile := hread .logFile
  simp only [Setting.name, Setting.get, Setting.convert] at *
  unfold settings
  simp only [hprogram, hinterval, hstorage, hlevel, hfile]

end Layers

/-! ## A file and the environment -/

namespace Settings

theorem get?_sources {environment : List (String × String)} {entries : List (String × Loose)}
    (vars : HasPlainKeys (Environment.entries environment)) (keys : HasPlainKeys entries)
    (origin name : String) :
    ((Layers.setAll [] origin entries).setAll Environment.origin
        (Environment.entries environment)).get? name =
      ((given (Environment.entries environment) name).map (Entry.ofSource Environment.origin)).or
        ((given entries name).map (Entry.ofSource origin)) := by
  rw [Layers.get?_setAll vars fun entry h => .inl (Environment.ne_table_of_mem_entries h),
    Layers.get?_setAll keys fun entry _ => .inr rfl]
  congr 1
  exact Option.or_none

/-- The layers under the environment. -/
def fileLayers (files : Files) : Option String → Except SettingsError Layers
  | none => .ok []
  | some path => do (← SettingsFile.find files path).layers

theorem load_eq (files : Files) (environment : List (String × String)) (path : Option String) :
    load files environment path =
      fileLayers files path >>= fun layers => ofSources layers environment := by
  cases path with
  | none => rfl
  | some path => simp only [load, fileLayers, bind_assoc]

/-- What a path leads to: the name of a file and its entries. Without a path there are none. -/
inductive FileSays (files : Files) : Option String → String → List (String × Loose) → Prop
  | absent : FileSays files none "" []
  | found {path : String} {file : SettingsFile} {entries : List (String × Loose)}
      (h : SettingsFile.find files path = .ok file) (hentries : file.entries = .ok entries) :
      FileSays files (some path) file.path entries

theorem load_of_fileSays {files : Files} {path : Option String} {name : String}
    {entries : List (String × Loose)} (h : FileSays files path name entries)
    (environment : List (String × String)) :
    load files environment path =
      ofSources (Layers.setAll [] (Files.tidy name) entries) environment := by
  have hlayers : fileLayers files path = .ok (Layers.setAll [] (Files.tidy name) entries) := by
    cases h with
    | absent => rfl
    | found h hentries =>
      rw [fileLayers, h, ok_bind, SettingsFile.layers, hentries, ok_bind]
      rfl
  rw [load_eq, hlayers, ok_bind]

theorem settings_of_ofSources {layers : Layers} {environment : List (String × String)}
    {s : Settings} (h : ofSources layers environment = .ok s) :
    (layers.setAll Environment.origin (Environment.entries environment)).settings = .ok s ∧
      s.validate = .ok () := by
  unfold ofSources at h
  simp only at h
  split at h
  · next s' hsettings =>
    obtain ⟨⟨⟩, hvalid, h⟩ := exists_of_bind_eq_ok h
    cases h
    exact ⟨hsettings, hvalid⟩
  · contradiction

theorem validate_of_load {files : Files} {environment : List (String × String)}
    {path : Option String} {s : Settings} (h : load files environment path = .ok s) :
    s.validate = .ok () := by
  rw [load_eq] at h
  obtain ⟨layers, -, h⟩ := exists_of_bind_eq_ok h
  exact (settings_of_ofSources h).2

theorem get_of_load {files : Files} {environment : List (String × String)} {path : Option String}
    {name : String} {entries : List (String × Loose)} (file : FileSays files path name entries)
    {s : Settings} (h : load files environment path = .ok s) {setting : Setting}
    (hvariable : ¬ Environment.Sets environment setting.name)
    (hkey : given entries setting.name = none) : setting.get s = setting.get {} := by
  rw [load_of_fileSays file] at h
  apply Layers.get_of_isUnnamed (settings_of_ofSources h).1
  have hempty : Layers.IsUnnamed [] setting.name := by
    rintro entry ⟨⟩
  have hfile : (Layers.setAll [] (Files.tidy name) entries).IsUnnamed setting.name :=
    hempty.setAll (given_eq_none_iff.mp hkey) _
  rw [← Environment.given_entries_eq_none_iff] at hvariable
  exact hfile.setAll (given_eq_none_iff.mp hvariable) _

theorem ofSources_congr {environment environment' : List (String × String)}
    {entries entries' : List (String × Loose)} (origin : String)
    (same : environment.Perm environment')
    (vars : HasPlainKeys (Environment.entries environment))
    (keys : HasPlainKeys entries) (keys' : HasPlainKeys entries')
    (agree : ∀ setting : Setting, given (Environment.entries environment) setting.name = none →
      given entries setting.name = given entries' setting.name) :
    ofSources (Layers.setAll [] origin entries) environment =
      ofSources (Layers.setAll [] origin entries') environment' := by
  have hentries : (Environment.entries environment).Perm (Environment.entries environment') :=
    same.filterMap _
  have hsettings : ((Layers.setAll [] origin entries).setAll Environment.origin
        (Environment.entries environment)).settings =
      ((Layers.setAll [] origin entries').setAll Environment.origin
        (Environment.entries environment')).settings := by
    apply Layers.settings_congr
    intro setting
    rw [get?_sources vars keys, get?_sources (vars.perm hentries) keys',
      ← given_perm vars hentries]
    cases hvariable : given (Environment.entries environment) setting.name with
    | some v => rfl
    | none => rw [agree setting hvariable]
  simp only [ofSources, hsettings]

/-- Two files that differ only in settings with a variable load alike, in whatever order the
variables come. What no source gives has its default, and loaded settings are valid. -/
theorem load_shadowed {environment environment' : List (String × String)} {files files' : Files}
    {path : Option String} {name : String} {entries entries' : List (String × Loose)}
    (same : environment.Perm environment') (names : Environment.HasPlainNames environment)
    (file : FileSays files path name entries) (file' : FileSays files' path name entries')
    (keys : HasPlainKeys entries) (keys' : HasPlainKeys entries')
    (agree : ∀ setting : Setting, ¬ Environment.Sets environment setting.name →
      given entries setting.name = given entries' setting.name) :
    load files environment path = load files' environment' path ∧
    (∀ files environment path name entries s, FileSays files path name entries →
      load files environment path = .ok s → ∀ setting : Setting,
      ¬ Environment.Sets environment setting.name → given entries setting.name = none →
      setting.get s = setting.get {}) ∧
    ∀ files environment path s, load files environment path = .ok s → s.validate = .ok () := by
  have vars : HasPlainKeys (Environment.entries environment) :=
    Environment.hasPlainKeys_entries names
  refine ⟨?_, fun _ _ _ _ _ _ file h _ => get_of_load file h, fun _ _ _ _ => validate_of_load⟩
  rw [load_of_fileSays file, load_of_fileSays file']
  apply ofSources_congr _ same vars keys keys'
  intro setting hnone
  exact agree setting (Environment.given_entries_eq_none_iff.mp hnone)

/-- A list in the place of a number, and an empty program, which alone would be refused. -/
theorem load_shadowed_misfits :
    let environment := [("WORKER_METRICS_INTERVAL_SECS", "7"), ("worker_metrics_ps_program", "/bin/ps")]
    let files : Files := [(["m.toml"], .file "interval_secs = ['soon']\nStorage = 'mutex'\n")]
    let files' : Files := [(["m.toml"], .file "STORAGE = 'mutex'\nps_program = ''\n")]
    let entries : List (String × Loose) :=
      [("Storage", .text "mutex"), ("interval_secs", .list [.text "soon"])]
    let entries' : List (String × Loose) := [("ps_program", .text ""), ("STORAGE", .text "mutex")]
    let s : Settings := { program := "/bin/ps", intervalSecs := 7, storage := "mutex" }
    environment.Perm environment.reverse ∧ Environment.HasPlainNames environment ∧
    FileSays files (some "m.toml") "m.toml" entries ∧
    FileSays files' (some "m.toml") "m.toml" entries' ∧
    HasPlainKeys entries ∧ HasPlainKeys entries' ∧
    (∀ setting : Setting, ¬ Environment.Sets environment setting.name →
      given entries setting.name = given entries' setting.name) ∧
    load files environment (some "m.toml") = .ok s ∧
    load files' environment.reverse (some "m.toml") = .ok s ∧
    s.logFile = ({} : Settings).logFile ∧ s.validate = .ok () := by
  intro environment files files' entries entries' s
  have same : environment.Perm environment.reverse := (List.reverse_perm _).symm
  have names : Environment.HasPlainNames environment :=
    ⟨by simp [environment, IsPlain], by simp [environment]; decide⟩
  have hfind : SettingsFile.find files "m.toml" = .ok ⟨"m.toml", .toml, _⟩ := rfl
  have hfind' : SettingsFile.find files' "m.toml" = .ok ⟨"m.toml", .toml, _⟩ := rfl
  have file : FileSays files (some "m.toml") "m.toml" entries := .found hfind rfl
  have file' : FileSays files' (some "m.toml") "m.toml" entries' := .found hfind' rfl
  have keys : HasPlainKeys entries := ⟨by simp [entries, IsPlain], by decide⟩
  have keys' : HasPlainKeys entries' := ⟨by simp [entries', IsPlain], by decide⟩
  have agree : ∀ setting : Setting, ¬ Environment.Sets environment setting.name →
      given entries setting.name = given entries' setting.name := by
    intro setting h
    cases setting with
    | program => exact absurd ⟨_, List.mem_cons_of_mem _ List.mem_cons_self, rfl⟩ h
    | intervalSecs => exact absurd ⟨_, List.mem_cons_self, rfl⟩ h
    | storage | logLevel | logFile => rfl
  obtain ⟨hload, hdefault, hvalid⟩ := load_shadowed same names file file' keys keys' agree
  have hs : load files environment (some "m.toml") = .ok s := by
    rw [load_of_fileSays file]
    rfl
  have hunset : ¬ Environment.Sets environment "log_file" := by
    rw [← Environment.given_entries_eq_none_iff]
    rfl
  exact ⟨same, names, file, file', keys, keys', agree, hs, hload.symm.trans hs,
    hdefault _ _ _ _ _ s file hs .logFile hunset rfl, hvalid _ _ _ s hs⟩

end Settings

end WorkerMemory
