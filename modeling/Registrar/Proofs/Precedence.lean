import Registrar.Proofs.Merging

/-!
# Which layer decides a setting

Before they are checked, the settings of a configuration hold at every leaf the value of the
strongest layer that gives the leaf, taken for one of its type, or the default of the leaf if no
layer gives it.  The variables are the strongest layer, then come the local file, the file of the
environment and the file of defaults; a single file takes the place of the three.
-/

namespace Registrar

open ConfigValue

/-! ## Values of leaves -/

inductive Leaf.Value where
  | text (s : String)
  | nat (n : Nat)
  | flag (b : Bool)
  deriving DecidableEq

def Settings.value (s : Settings) : Leaf → Leaf.Value
  | .applicationName => .text s.application.name
  | .applicationVersion => .text s.application.version
  | .databaseUrl => .text s.database.url
  | .maxConnections => .nat s.database.maxConnections
  | .minConnections => .nat s.database.minConnections
  | .connectionTimeout => .nat s.database.connectionTimeout
  | .autoMigrate => .flag s.database.autoMigrate
  | .logLevel => .text s.logger.level
  | .logFormat => .text s.logger.format
  | .logColored => .flag s.logger.colored
  | .requestTimeout => .nat s.core.requestTimeout

namespace Leaf

/-- A value taken for one of the type of the leaf. -/
def coerce? : Leaf → ConfigValue → Option Value
  | .applicationName | .applicationVersion | .databaseUrl | .logLevel | .logFormat =>
    fun v => (reader.text v).map .text
  | .maxConnections | .minConnections => fun v => (reader.nat ValueReader.maxNat32 v).map .nat
  | .connectionTimeout | .requestTimeout =>
    fun v => (reader.nat ValueReader.maxNat64 v).map .nat
  | .autoMigrate | .logColored => fun v => (reader.flag v).map .flag

/-- The value of a leaf that is given one or none. -/
def read? (leaf : Leaf) : Option ConfigValue → Option Value
  | some v => leaf.coerce? v
  | none => some (Settings.value {} leaf)

theorem field_eq_some_iff {α : Type} (leaf : Leaf) {wrap : α → Value} {default a : α}
    {read : ConfigValue → Option α} {get : String → Option ConfigValue}
    (hcoerce : ∀ v, leaf.coerce? v = (read v).map wrap)
    (hdefault : Settings.value {} leaf = wrap default) (hwrap : Function.Injective wrap) :
    ValueReader.field get leaf.name default read = some a ↔
      leaf.read? (get leaf.name) = some (wrap a) := by
  unfold ValueReader.field read?
  cases get leaf.name with
  | none => simp [hdefault, hwrap.eq_iff]
  | some v => simp [hcoerce, hwrap.eq_iff]

section Types

variable (leaf : Leaf) (t : Entries)

theorem field_text_iff (a : String) {default : String}
    (hcoerce : ∀ v, leaf.coerce? v = (reader.text v).map .text)
    (hdefault : Settings.value {} leaf = .text default) :
    ValueReader.field (t.lookup ·) leaf.name default reader.text = some a ↔
      leaf.read? (t.lookup leaf.name) = some (.text a) :=
  field_eq_some_iff leaf hcoerce hdefault fun _ _ => Value.text.inj

theorem field_nat_iff (a : Nat) {bound default : Nat}
    (hcoerce : ∀ v, leaf.coerce? v = (reader.nat bound v).map .nat)
    (hdefault : Settings.value {} leaf = .nat default) :
    ValueReader.field (t.lookup ·) leaf.name default (reader.nat bound) = some a ↔
      leaf.read? (t.lookup leaf.name) = some (.nat a) :=
  field_eq_some_iff leaf hcoerce hdefault fun _ _ => Value.nat.inj

theorem field_flag_iff (a : Bool) {default : Bool}
    (hcoerce : ∀ v, leaf.coerce? v = (reader.flag v).map .flag)
    (hdefault : Settings.value {} leaf = .flag default) :
    ValueReader.field (t.lookup ·) leaf.name default reader.flag = some a ↔
      leaf.read? (t.lookup leaf.name) = some (.flag a) :=
  field_eq_some_iff leaf hcoerce hdefault fun _ _ => Value.flag.inj

end Types

end Leaf

/-! ## Reading sections -/

section Sections

open ValueReader

variable {es t : Entries}

theorem application_eq_some_iff {a : ApplicationSettings} :
    reader.application (.table t) = some a ↔
      Leaf.applicationName.read? (t.lookup "name") = some (.text a.name) ∧
      Leaf.applicationVersion.read? (t.lookup "version") = some (.text a.version) := by
  have hname := Leaf.applicationName.field_text_iff t a.name (fun _ => rfl) rfl
  have hversion := Leaf.applicationVersion.field_text_iff t a.version (fun _ => rfl) rfl
  refine Iff.trans ?_ (and_congr hname hversion)
  cases a
  simp [application, reader, fields?, Option.bind_eq_some_iff, Leaf.name]

theorem database_eq_some_iff {d : DatabaseSettings} :
    reader.database (.table t) = some d ↔
      Leaf.databaseUrl.read? (t.lookup "url") = some (.text d.url) ∧
      Leaf.maxConnections.read? (t.lookup "max_connections") = some (.nat d.maxConnections) ∧
      Leaf.minConnections.read? (t.lookup "min_connections") = some (.nat d.minConnections) ∧
      Leaf.connectionTimeout.read? (t.lookup "connection_timeout") =
        some (.nat d.connectionTimeout) ∧
      Leaf.autoMigrate.read? (t.lookup "auto_migrate") = some (.flag d.autoMigrate) := by
  have hurl := Leaf.databaseUrl.field_text_iff t d.url (fun _ => rfl) rfl
  have hmax := Leaf.maxConnections.field_nat_iff t d.maxConnections (fun _ => rfl) rfl
  have hmin := Leaf.minConnections.field_nat_iff t d.minConnections (fun _ => rfl) rfl
  have htimeout := Leaf.connectionTimeout.field_nat_iff t d.connectionTimeout (fun _ => rfl) rfl
  have hmigrate := Leaf.autoMigrate.field_flag_iff t d.autoMigrate (fun _ => rfl) rfl
  refine Iff.trans ?_ (and_congr hurl (and_congr hmax (and_congr hmin
    (and_congr htimeout hmigrate))))
  cases d
  simp [-Bool.exists_bool, database, reader, fields?, Option.bind_eq_some_iff, Leaf.name]

theorem logger_eq_some_iff {l : LogSettings} :
    reader.logger (.table t) = some l ↔
      Leaf.logLevel.read? (t.lookup "level") = some (.text l.level) ∧
      Leaf.logFormat.read? (t.lookup "format") = some (.text l.format) ∧
      Leaf.logColored.read? (t.lookup "colored") = some (.flag l.colored) := by
  have hlevel := Leaf.logLevel.field_text_iff t l.level (fun _ => rfl) rfl
  have hformat := Leaf.logFormat.field_text_iff t l.format (fun _ => rfl) rfl
  have hcolored := Leaf.logColored.field_flag_iff t l.colored (fun _ => rfl) rfl
  refine Iff.trans ?_ (and_congr hlevel (and_congr hformat hcolored))
  cases l
  simp [-Bool.exists_bool, logger, reader, fields?, Option.bind_eq_some_iff, Leaf.name]

theorem core_eq_some_iff {c : CoreSettings} :
    reader.core (.table t) = some c ↔
      Leaf.requestTimeout.read? (t.lookup "request_timeout") =
        some (.nat c.requestTimeout) := by
  have htimeout := Leaf.requestTimeout.field_nat_iff t c.requestTimeout (fun _ => rfl) rfl
  refine Iff.trans ?_ htimeout
  cases c
  simp [core, reader, fields?, Option.bind_eq_some_iff, Leaf.name]

end Sections

/-! ## Variables -/

namespace Variables

variable {env : Env}

theorem isScalar_valueOf (s : String) : (valueOf s).isScalar := by
  unfold valueOf
  simp only []
  split
  · rfl
  split
  · rfl
  split
  · rfl
  split <;> rfl

end Variables

/-! ## Loading -/

namespace ConfigLoader

open Variables (Env)

variable {l : ConfigLoader} {files : ConfigFiles} {env : Env} {layers : List Entries}

/-- What the file of a layer holds; an optional one that is missing holds nothing. -/
def Layer.Holds (files : ConfigFiles) (layer : Layer) (es : Entries) : Prop :=
  layer.check files = .ok () ∧ layer.entries files = .ok es

/-- What the files of a loader hold, the strongest first. -/
inductive FileLayers (files : ConfigFiles) : ConfigLoader → List Entries → Prop where
  | layered {dir : Path} {environment : Environment} {defaults own here : Entries} :
      Layer.Holds files ⟨dir.join "default.toml", true⟩ defaults →
      Layer.Holds files ⟨dir.join (environment.word ++ ".toml"), false⟩ own →
      Layer.Holds files ⟨dir.join "local.toml", false⟩ here →
      FileLayers files ⟨.layered dir, environment⟩ [here, own, defaults]
  | singleFile {file : Path} {environment : Environment} {only : Entries} :
      Layer.Holds files ⟨file, true⟩ only →
      FileLayers files ⟨.singleFile file, environment⟩ [only]

/-- What is read from a file, nothing if it cannot be read. -/
def Layer.read (files : ConfigFiles) (layer : Layer) : Entries :=
  match layer.entries files with
  | .ok es => es
  | .error _ => []

theorem FileLayers.sources (h : FileLayers files l layers) (env : Env) :
    l.sources files env = .ok (layers.reverse ++ [Variables.source env]) := by
  unfold ConfigLoader.sources
  cases h with
  | layered hdefaults hown hhere =>
    obtain ⟨hcheck, hentries⟩ := hdefaults
    obtain ⟨hcheck', hentries'⟩ := hown
    obtain ⟨hcheck'', hentries''⟩ := hhere
    simp only [ConfigLoader.layers, List.forM, List.mapM_cons, List.mapM_nil,
      hcheck, hcheck', hcheck'', hentries, hentries', hentries'']
    rfl
  | singleFile honly =>
    obtain ⟨hcheck, hentries⟩ := honly
    simp only [ConfigLoader.layers, List.forM, List.mapM_cons, List.mapM_nil,
      hcheck, hentries]
    rfl

theorem settingsOf_eq_ok_iff {es : Entries} {s : Settings} :
    settingsOf es = .ok s ↔ reader.settings (.table es) = some s := by
  unfold settingsOf
  cases reader.settings (.table es) <;> simp

theorem load_eq_ok_iff {s : Settings} : l.load files env = .ok s ↔
    l.unchecked files env = .ok s ∧ s.check = .ok () := by
  unfold load
  cases l.unchecked files env with
  | error e => simp [bind, Except.bind]
  | ok unchecked =>
    have hchecked : (do unchecked.check; return unchecked : Except ConfigError Settings) = .ok s ↔
        unchecked.check = .ok () ∧ unchecked = s := by
      cases unchecked.check <;> simp [bind, Except.bind, pure, Except.pure]
    refine hchecked.trans ⟨?_, ?_⟩
    · rintro ⟨hcheck, rfl⟩
      exact ⟨rfl, hcheck⟩
    · rintro ⟨hok, hcheck⟩
      obtain rfl := Except.ok.inj hok
      exact ⟨hcheck, rfl⟩

/-! ## Variables that select the files -/

/-- The same sections. -/
def Agree (es es' : Entries) : Prop :=
  ∀ leaf : Leaf, es.lookup leaf.sectionName = es'.lookup leaf.sectionName

variable {es es' : Entries}

theorem Agree.setAt (h : Agree es es') (path : KeyPath) (v : ConfigValue) :
    Agree (ConfigValue.setAt path v es) (ConfigValue.setAt path v es') := by
  intro leaf
  have hleaf := h leaf
  by_cases hfirst : leaf.sectionName = path.first
  · rw [hfirst] at hleaf ⊢
    rw [lookup_setAt, lookup_setAt, hleaf]
  · rw [lookup_setAt_of_ne hfirst, lookup_setAt_of_ne hfirst, hleaf]

theorem Agree.settings (h : Agree es es') :
    reader.settings (.table es) = reader.settings (.table es') := by
  have happlication : es.lookup "application" = es'.lookup "application" := h .applicationName
  have hdatabase : es.lookup "database" = es'.lookup "database" := h .databaseUrl
  have hlogger : es.lookup "logger" = es'.lookup "logger" := h .logLevel
  have hcore : es.lookup "core" = es'.lookup "core" := h .requestTimeout
  simp only [ValueReader.settings, reader, fields?, ValueReader.field, happlication, hdatabase,
    hlogger, hcore, Option.bind_eq_bind, Option.bind_some]

end ConfigLoader

end Registrar
