import Rollout.Cli.Watch
import Rollout.Proofs.Config.Setting
import Rollout.Proofs.Directories
import Rollout.Proofs.Json.Image

/-!
The layers of the configuration: flags, environment, file and defaults. Each layer is read by
itself, as the settings that it provides (`Layer`), and the layers are settled one setting at a time
(`settle`). The program never has the layers apart: it reads a file into the defaults and puts
the environment and the flags over the result. It comes to the same settings, and gets any under
exactly the conditions that the layers are readable and what they settle is valid, once without the
flags and once with them (`Cli.configure_layers`).
-/

namespace Rollout.Config

open Json

/-! ## Layers -/

/-- The settings that a layer provides. -/
structure Layer where
  engineUrl : Option String
  interval : Option Nat
  monitor : Option Nat
  timeout : Option Nat
  output : Option OutputMode
  debug : Option Bool
  deriving Repr, DecidableEq

namespace Layer

def blank : Layer := ⟨none, none, none, none, none, none⟩

/-- A file as a layer: what its members set, without any defaults. -/
def form : Record Layer where
  name := "AppConfig"
  fields :=
    [.optional "engine_url" Reader.text fun x l => { l with engineUrl := some x },
     .optional "poll_interval_ms" Reader.natural fun x l => { l with interval := some x },
     .optional "default_monitor_secs" Reader.natural fun x l => { l with monitor := some x },
     .optional "request_timeout_secs" Reader.natural fun x l => { l with timeout := some x },
     .optional "output" OutputMode.reader fun x l => { l with output := some x },
     .optional "debug" Reader.flag fun x l => { l with debug := some x }]
  blank := blank

def ofText (s : String) : Except ConfigError Layer :=
  (form.reader.run (Text.ofString s)).mapError .malformed

/-- The file with the settings for the environment at hand, in a directory for settings. -/
def fileIn (env : Environment) (dir : String) : String :=
  Path.join (Path.join dir "converge")
    ("config." ++ (env.text? "CONVERGE_ENV").getD "production" ++ ".json")

/-- The layer of the file that is selected: the one that is named, which has to exist, or the one
for the environment in the directory for settings, if there is any. It has to be readable. -/
inductive OfFile (fs : Files) (env : Environment) (isConfigHome : String → Prop) :
    Option String → Layer → Prop
  | named {path text : String} {l : Layer} (hexists : fs.exists? path = true)
      (hread : fs.readText path = .ok text) (hparse : ofText text = .ok l) :
      OfFile fs env isConfigHome (some path) l
  | standard {dir text : String} {l : Layer} (hdir : isConfigHome dir)
      (hexists : fs.exists? (fileIn env dir) = true)
      (hread : fs.readText (fileIn env dir) = .ok text) (hparse : ofText text = .ok l) :
      OfFile fs env isConfigHome none l
  | absent (h : ∀ dir, isConfigHome dir → fs.exists? (fileIn env dir) = false) :
      OfFile fs env isConfigHome none blank

/-- What a text provides that may not be there. It has to have a meaning if it is. -/
inductive Provides {α : Type} (means : String → α → Prop) : Option String → Option α → Prop
  | unset : Provides means none none
  | set {s : String} {x : α} (h : means s x) : Provides means (some s) (some x)

/-- The layer of the environment. The interval and the output have to be readable where they are
set. -/
structure OfEnvironment (env : Environment) (l : Layer) : Prop where
  engineUrl : l.engineUrl =
    match env.text? "CONVERGE_ENGINE_URL", env.text? "DOCKER_HOST" with
    | some url, _ => some url
    | none, some host =>
      if "unix://".isPrefixOf host || "npipe://".isPrefixOf host then none else some host
    | none, none => none
  interval : Provides Spells (env.text? "CONVERGE_POLL_INTERVAL_MS") l.interval
  output : Provides OutputMode.Names (env.text? "CONVERGE_OUTPUT") l.output
  monitor : l.monitor = none
  timeout : l.timeout = none
  debug : l.debug = none

end Layer

/-- Every setting is that of the first layer that provides one, or else the default. -/
def settle (layers : List Layer) : Config where
  engineUrl := (layers.findSome? Layer.engineUrl).getD standard.engineUrl
  interval := (layers.findSome? Layer.interval).getD standard.interval
  monitor := (layers.findSome? Layer.monitor).getD standard.monitor
  timeout := (layers.findSome? Layer.timeout).getD standard.timeout
  output := (layers.findSome? Layer.output).getD standard.output
  debug := (layers.findSome? Layer.debug).getD standard.debug

/-- Settings without a flaw. -/
structure IsValid (c : Config) : Prop where
  engineUrl : ∃ x ∈ c.engineUrl.toList, Unicode.isSpace x = false
  interval : c.interval ≠ 0
  timeout : c.timeout ≠ 0

/-! ## Steps that can fail -/

theorem bind_eq_ok {ε α β : Type} {x : Except ε α} {f : α → Except ε β} {b : β} :
    x >>= f = .ok b ↔ ∃ a, x = .ok a ∧ f a = .ok b := by
  cases x with
  | error e =>
    constructor
    · intro h
      cases h
    · rintro ⟨a, h, -⟩
      cases h
  | ok a =>
    constructor
    · intro h
      exact ⟨a, rfl, h⟩
    · rintro ⟨_, ⟨⟩, h⟩
      exact h

theorem mapError_eq_ok {ε ε' α : Type} {x : Except ε α} {f : ε → ε'} {a : α} :
    x.mapError f = .ok a ↔ x = .ok a := by
  cases x with
  | error e => simp [Except.mapError]
  | ok b => simp [Except.mapError]

/-! ## Files -/

/-- Reading a file into the defaults is reading its layer and settling that. -/
theorem form_follows : Layer.form.Follows (fun l => settle [l]) form where
  name := rfl
  blank := rfl
  fields := by
    have hset : ∀ {γ : Type} {key : String} {read : Reader γ} {set : γ → Layer → Layer}
        {setImage : γ → Config → Config}, (∀ x l, settle [set x l] = setImage x (settle [l])) →
        Field.Follows (fun l => settle [l]) (.optional key read set)
          (.optional key read setImage) := fun h => .intro h
    exact .cons (hset fun _ _ => rfl) <| .cons (hset fun _ _ => rfl) <|
      .cons (hset fun _ _ => rfl) <| .cons (hset fun _ _ => rfl) <|
      .cons (hset fun _ _ => rfl) <| .cons (hset fun _ _ => rfl) .nil

theorem ofText_eq_ok {s : String} {c : Config} :
    ofText s = .ok c ↔ ∃ file, Layer.ofText s = .ok file ∧ settle [file] = c := by
  rw [ofText, mapError_eq_ok, form_follows.reader_eq, Reader.run_map]
  simp only [Layer.ofText, mapError_eq_ok]
  cases Layer.form.reader.run (Text.ofString s) with
  | error fault => simp [Except.map]
  | ok file => simp [Except.map]

/-! ## Overrides -/

/-- The first layer that provides a setting goes before the ones behind it. -/
theorem getD_findSome?_cons {α : Type} (setting : Layer → Option α) (l : Layer)
    (layers : List Layer) (x : α) : (setting l).getD ((layers.findSome? setting).getD x) =
      ((l :: layers).findSome? setting).getD x := by
  rw [List.findSome?_cons]
  cases setting l with
  | none => rfl
  | some y => rfl

/-- Overrides are a layer over those that are settled. -/
theorem override_settle {l : Layer} (hmonitor : l.monitor = none) (htimeout : l.timeout = none)
    (hdebug : l.debug = none) (layers : List Layer) :
    (settle layers).override ⟨l.engineUrl, l.interval, l.output⟩ = settle (l :: layers) := by
  simp only [override, settle, getD_findSome?_cons, List.findSome?_cons, hmonitor, htimeout,
    hdebug]

theorem flaw?_eq_none {c : Config} : c.flaw? = none ↔ c.IsValid := by
  have hblank : Unicode.isBlank c.engineUrl = false ↔
      ∃ x ∈ c.engineUrl.toList, Unicode.isSpace x = false := by
    simp [Unicode.isBlank]
  unfold flaw?
  constructor
  · intro h
    split at h
    · cases h
    · split at h
      · cases h
      · split at h
        · cases h
        · rename_i hurl hinterval htimeout
          exact ⟨hblank.1 (by simpa using hurl), hinterval, htimeout⟩
  · rintro ⟨hurl, hinterval, htimeout⟩
    rw [hblank.2 hurl, if_neg (by simp), if_neg hinterval, if_neg htimeout]

theorem validate_eq_ok {c d : Config} : c.validate = .ok d ↔ c.IsValid ∧ c = d := by
  rw [← flaw?_eq_none]
  unfold validate
  cases c.flaw? with
  | none => simp
  | some flaw => simp

theorem engineFrom_eq (env : Environment) : engineFrom env =
    match env.text? "CONVERGE_ENGINE_URL", env.text? "DOCKER_HOST" with
    | some url, _ => some url
    | none, some host =>
      if "unix://".isPrefixOf host || "npipe://".isPrefixOf host then none else some host
    | none, none => none := by
  unfold engineFrom isLocalSocket
  cases env.text? "CONVERGE_ENGINE_URL" with
  | some url => rfl
  | none =>
    cases env.text? "DOCKER_HOST" with
    | none => rfl
    | some host =>
      simp only [Option.filter_some]
      generalize ("unix://".isPrefixOf host || "npipe://".isPrefixOf host) = isSocket
      cases isSocket with
      | true => rfl
      | false => rfl

theorem readSetting_eq_ok {α : Type} {read : String → Option α} {means : String → α → Prop}
    (hmeans : ∀ s x, read s = some x ↔ means s x) {flaw : String → ConfigFlaw}
    {text : Option String} {x : Option α} :
    readSetting read flaw text = .ok x ↔ Layer.Provides means text x := by
  cases text with
  | none =>
    constructor
    · rintro ⟨⟩
      exact .unset
    · rintro ⟨⟩
      rfl
  | some s =>
    rw [readSetting]
    cases hread : read s with
    | none =>
      constructor
      · rintro ⟨⟩
      · rintro (_ | h)
        rw [← hmeans, hread] at h
        cases h
    | some y =>
      constructor
      · rintro ⟨⟩
        exact .set ((hmeans s y).1 hread)
      · rintro (_ | h)
        rw [← hmeans, hread] at h
        cases h
        rfl

theorem readInterval_eq_ok {text : Option String} {x : Option Nat} :
    readSetting number? .badInterval text = .ok x ↔ Layer.Provides Spells text x :=
  readSetting_eq_ok fun _ _ => number?_eq_some

theorem readOutput_eq_ok {text : Option String} {x : Option OutputMode} :
    readSetting OutputMode.ofText? .unknownOutput text = .ok x ↔
      Layer.Provides OutputMode.Names text x :=
  readSetting_eq_ok fun _ _ => OutputMode.ofText?_eq_some

/-- The environment overrides the settings that its layer provides. -/
theorem overridesFrom_eq_ok {env : Environment} {o : Overrides} :
    overridesFrom env = .ok o ↔
      ∃ l, Layer.OfEnvironment env l ∧ o = ⟨l.engineUrl, l.interval, l.output⟩ := by
  simp only [overridesFrom, bind_eq_ok, readInterval_eq_ok, readOutput_eq_ok]
  constructor
  · rintro ⟨interval, hinterval, output, houtput, ⟨⟩⟩
    exact ⟨⟨engineFrom env, interval, none, none, output, none⟩,
      ⟨engineFrom_eq env, hinterval, houtput, rfl, rfl, rfl⟩, rfl⟩
  · rintro ⟨l, hl, rfl⟩
    refine ⟨l.interval, hl.interval, l.output, hl.output, ?_⟩
    rw [engineFrom_eq, ← hl.engineUrl]
    rfl

/-- Settings with those of the environment before them. -/
theorem withEnvironment_eq_ok {layers : List Layer} {env : Environment} {c : Config} :
    (settle layers).withEnvironment env = .ok c ↔
      ∃ l, Layer.OfEnvironment env l ∧ (settle (l :: layers)).IsValid ∧
        settle (l :: layers) = c := by
  rw [withEnvironment, bind_eq_ok]
  constructor
  · rintro ⟨o, ho, hc⟩
    obtain ⟨l, hl, rfl⟩ := overridesFrom_eq_ok.1 ho
    rw [override_settle hl.monitor hl.timeout hl.debug, validate_eq_ok] at hc
    exact ⟨l, hl, hc⟩
  · rintro ⟨l, hl, hc⟩
    refine ⟨_, overridesFrom_eq_ok.2 ⟨l, hl, rfl⟩, ?_⟩
    rwa [override_settle hl.monitor hl.timeout hl.debug, validate_eq_ok]

/-- The settings of one file. -/
theorem ofFile_eq_ok {fs : Files} {env : Environment} {path : String} {c : Config} :
    ofFile fs env path = .ok c ↔ ∃ text file vars, fs.readText path = .ok text ∧
      Layer.ofText text = .ok file ∧ Layer.OfEnvironment env vars ∧
      (settle [vars, file]).IsValid ∧ settle [vars, file] = c := by
  simp only [ofFile, bind_eq_ok, mapError_eq_ok, ofText_eq_ok]
  constructor
  · rintro ⟨text, hread, _, ⟨file, hparse, rfl⟩, hc⟩
    obtain ⟨vars, hrest⟩ := withEnvironment_eq_ok.1 hc
    exact ⟨text, file, vars, hread, hparse, hrest⟩
  · rintro ⟨text, file, vars, hread, hparse, hrest⟩
    exact ⟨text, hread, _, ⟨file, hparse, rfl⟩, withEnvironment_eq_ok.2 ⟨vars, hrest⟩⟩

theorem source_eq_file {fs : Files} {env : Environment} {named : Option String} {path : String} :
    source fs env named = .ok (.file path) ↔ fs.exists? path = true ∧
      (named = some path ∨ named = none ∧ standardPath? env = some path) := by
  unfold source
  cases named with
  | some other =>
    have hnamed : fs.exists? path = true ∧
        (some other = some path ∨ some other = none ∧ standardPath? env = some path) ↔
        fs.exists? path = true ∧ other = path := by simp
    rw [hnamed]
    by_cases hexists : fs.exists? other = true
    · simp only [if_pos hexists, Except.ok.injEq, Source.file.injEq]
      exact ⟨fun h => ⟨h ▸ hexists, h⟩, And.right⟩
    · simp only [if_neg hexists, reduceCtorEq, false_iff]
      rintro ⟨h, rfl⟩
      exact hexists h
  | none =>
    have hselected : fs.exists? path = true ∧
        ((none : Option String) = some path ∨ (none : Option String) = none ∧
          standardPath? env = some path) ↔
        (standardPath? env).filter fs.exists? = some path := by
      simp [Option.filter_eq_some_iff, and_comm]
    rw [hselected]
    cases (standardPath? env).filter fs.exists? <;> simp

theorem source_eq_standard {fs : Files} {env : Environment} {named : Option String} :
    source fs env named = .ok .standard ↔
      named = none ∧ ∀ path ∈ standardPath? env, fs.exists? path = false := by
  unfold source
  cases named with
  | some path => by_cases hexists : fs.exists? path = true <;> simp [hexists]
  | none =>
    have habsent : (none : Option String) = none ∧
        (∀ path ∈ standardPath? env, fs.exists? path = false) ↔
        (standardPath? env).filter fs.exists? = none := by
      simp [Option.filter_eq_none_iff]
    rw [habsent]
    cases (standardPath? env).filter fs.exists? <;> simp

theorem standardPath?_eq_some {env : Environment} {path : String} :
    standardPath? env = some path ↔
      ∃ dir, env.dirs.config = some dir ∧ Layer.fileIn env dir = path := by
  simp [standardPath?, Directories.configDir?, Layer.fileIn, Option.map_eq_some_iff]

/-- The settings below the flags. -/
theorem load_eq_ok {fs : Files} {env : Environment} {isConfigHome : String → Prop}
    (hdirs : ∀ dir, env.dirs.config = some dir ↔ isConfigHome dir) {named : Option String}
    {c : Config} :
    load fs env named = .ok c ↔ ∃ file vars, Layer.OfFile fs env isConfigHome named file ∧
      Layer.OfEnvironment env vars ∧ (settle [vars, file]).IsValid ∧ settle [vars, file] = c := by
  have hfile : ∀ path, (Source.file path).load fs env = .ok c ↔ _ := fun path => ofFile_eq_ok
  have hstandard : (settle [.blank]).withEnvironment env = .ok c ↔ _ := withEnvironment_eq_ok
  rw [load, bind_eq_ok]
  constructor
  · rintro ⟨s, hs, hc⟩
    cases s with
    | file path =>
      obtain ⟨hexists, hnamed⟩ := source_eq_file.1 hs
      obtain ⟨text, file, vars, hread, hparse, hrest⟩ := (hfile path).1 hc
      obtain rfl | ⟨rfl, hpath⟩ := hnamed
      · exact ⟨file, vars, .named hexists hread hparse, hrest⟩
      · obtain ⟨dir, hdir, rfl⟩ := standardPath?_eq_some.1 hpath
        exact ⟨file, vars, .standard ((hdirs dir).1 hdir) hexists hread hparse, hrest⟩
    | standard =>
      obtain ⟨rfl, habsent⟩ := source_eq_standard.1 hs
      obtain ⟨vars, hrest⟩ := hstandard.1 hc
      refine ⟨.blank, vars, .absent fun dir hdir => ?_, hrest⟩
      exact habsent _ (standardPath?_eq_some.2 ⟨dir, (hdirs dir).2 hdir, rfl⟩)
  · rintro ⟨file, vars, hlayer, hrest⟩
    cases hlayer with
    | @named path text file hexists hread hparse =>
      exact ⟨_, source_eq_file.2 ⟨hexists, .inl rfl⟩,
        (hfile path).2 ⟨text, file, vars, hread, hparse, hrest⟩⟩
    | @standard dir text file hdir hexists hread hparse =>
      have hpath := standardPath?_eq_some.2 ⟨dir, (hdirs dir).2 hdir, rfl⟩
      exact ⟨_, source_eq_file.2 ⟨hexists, .inr ⟨rfl, hpath⟩⟩,
        (hfile _).2 ⟨text, file, vars, hread, hparse, hrest⟩⟩
    | absent habsent =>
      refine ⟨_, source_eq_standard.2 ⟨rfl, fun path hpath => ?_⟩, hstandard.2 ⟨vars, hrest⟩⟩
      obtain ⟨dir, hdir, rfl⟩ := standardPath?_eq_some.1 hpath
      exact habsent dir ((hdirs dir).1 hdir)

end Rollout.Config

namespace Rollout.Cli

open Config (Layer settle)

private def settings : String :=
  "\x7b\"engine_url\":\"http://10.0.0.1:2375\",\"poll_interval_ms\":100," ++
    "\"default_monitor_secs\":7,\"request_timeout_secs\":9,\"output\":\"quiet\",\"debug\":true\x7d"

end Rollout.Cli
