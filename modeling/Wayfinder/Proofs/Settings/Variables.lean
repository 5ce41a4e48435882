/-
**Settings from variables.**

A variable whose name spells the place of a setting gives it its value, as long as no other one has
to do with this place. The value is what the text of the variable can be read as, and the setting
takes it in the form that it wants. So a text is kept to the letter if it reads as nothing else; an
integer is kept, other numbers are rounded where a natural number is wanted, and a text that reads
as none makes loading fail. Nothing but the rules for whole settings is left to be broken then.

* `Place`, `places`: where settings are;
* `path?_variableName`: the variable that is named for a setting leads to it;
* `Clear`, `given?`: each setting is given by one variable at most, and what it gives;
* `at?_given`: what has been placed at a setting when all variables have been laid out;
* `TextSetting`, `NumberSetting`: the settings that want texts and natural numbers;
* `Reads`, `reads_ofTree?`: settings are read from their places;
* `Clear.number_kept`: the number that is kept of a text, the port's included;
* `Reflects`, `Faithful`, `faithful_of_clear`: settings against the texts of the variables.
-/

import Wayfinder.Proofs.Settings.Placing
import Wayfinder.Proofs.Settings.Texts
import Wayfinder.Settings

namespace Wayfinder.Settings

open SettingTree

/-! ### Variables and places -/

/-- Where a setting is. -/
structure Place where
  part : String
  name : String
deriving DecidableEq, Repr

/-- The path to the setting. -/
def Place.path (place : Place) : List SettingStep := [.key place.part, .key place.name]

/-- The parts of the settings. -/
def parts : List String := ["server", "analyzer", "nip"]

/-- The places of all settings. -/
def places : List Place :=
  serverNames.map (⟨"server", ·⟩) ++ routeNames.map (⟨"analyzer", ·⟩) ++
    metadataNames.map (⟨"nip", ·⟩)

/-- The name of the variable of a setting, in capitals. -/
def Place.variableName (stem : String) (place : Place) : String :=
  String.ofList (stem.toList ++ '_' :: place.part.toList.map Char.toUpper ++
    '_' :: '_' :: place.name.toList.map Char.toUpper)

/-- The path to which a variable leads, if its name begins with the stem. -/
def path? (stem name : String) : Option (List SettingStep) :=
  (Text.dropStart? (Layers.lower stem ++ ['_']) (Layers.lower name)).map fun key =>
    Layers.path (Layers.separate key)

theorem setting?_eq (stem name text : String) :
    Layers.setting? stem name text =
      (path? stem name).map fun path => (path, Layers.valueOf text) := by
  rw [Layers.setting?, path?, Option.map_map]
  rfl

theorem dropStart?_append (start rest : List Char) :
    Text.dropStart? start (start ++ rest) = some rest := by
  induction start with
  | nil => rfl
  | cons first start hypothesis => exact (if_pos rfl).trans hypothesis

/-- **The variable that is named for a setting leads to it.** -/
theorem path?_variableName (stem : String) {place : Place} (member : place ∈ places) :
    path? stem (place.variableName stem) = some place.path := by
  have lowered : Layers.lower (place.variableName stem) = Layers.lower stem ++ ['_'] ++
      ((place.part.toList.map Char.toUpper ++
        '_' :: '_' :: place.name.toList.map Char.toUpper).map Layers.lowerChar) := by
    rw [Layers.lower, Place.variableName, String.toList_ofList, List.append_assoc, List.map_append,
      List.append_assoc]
    rfl
  have leads : ∀ place ∈ places, Layers.path (Layers.separate
      ((place.part.toList.map Char.toUpper ++
        '_' :: '_' :: place.name.toList.map Char.toUpper).map Layers.lowerChar)) = place.path := by
    decide +kernel
  rw [path?, lowered, dropStart?_append]
  exact congrArg some (leads place member)

/-! ### What the variables give -/

/-- The variables that have to do with a setting. -/
def concerning (stem : String) (environment : List (String × String)) (place : Place) :
    List (String × String) :=
  environment.filter fun entry => (path? stem entry.1).any (touches place.part place.name)

/-- **Each setting is given by one variable at most**, which leads to it; no other one has to do with
it. -/
def Clear (stem : String) (environment : List (String × String)) : Prop :=
  ∀ place ∈ places, (concerning stem environment place).length ≤ 1 ∧
    ∀ entry ∈ concerning stem environment place, path? stem entry.1 = some place.path

instance (stem : String) (environment : List (String × String)) :
    Decidable (Clear stem environment) :=
  inferInstanceAs (Decidable (∀ place ∈ places, _ ∧ _))

/-- The text of the variable that gives a setting. -/
def given? (stem : String) (environment : List (String × String)) (place : Place) :
    Option String :=
  (concerning stem environment place).head?.map (·.2)

/-- The values that variables place. -/
def placed (stem : String) (environment : List (String × String)) :
    List (List SettingStep × SettingTree) :=
  environment.filterMap fun entry => Layers.setting? stem entry.1 entry.2

section

variable {stem : String} {environment : List (String × String)} {place : Place}
  {tree : SettingTree} {settings : Settings}

theorem valueOf_leaf (text : String) (fields : List (String × SettingTree)) :
    Layers.valueOf text ≠ .table fields := by
  have stands := stands_valueOf text
  generalize Layers.valueOf text = tree at stands
  cases stands with
  | truth | whole | real | itself => exact SettingTree.noConfusion

theorem mem_placed {entry : List SettingStep × SettingTree} :
    entry ∈ placed stem environment ↔
      ∃ given ∈ environment, path? stem given.1 = some entry.1 ∧
        entry.2 = Layers.valueOf given.2 := by
  rw [placed, List.mem_filterMap]
  refine exists_congr fun given => and_congr_right fun _ => ?_
  rw [setting?_eq, Option.map_eq_some_iff]
  constructor
  · rintro ⟨path, leads, rfl⟩
    exact ⟨leads, rfl⟩
  · rintro ⟨leads, same⟩
    exact ⟨entry.1, leads, Prod.ext rfl same.symm⟩

theorem Clear.leads (clear : Clear stem environment) (member : place ∈ places)
    {given : String × String} (among : given ∈ environment) {path : List SettingStep}
    (leads : path? stem given.1 = some path) (touching : touches place.part place.name path = true) :
    path = place.path := by
  have concerned : given ∈ concerning stem environment place := by
    refine List.mem_filter.mpr ⟨among, ?_⟩
    rw [leads, Option.any_some, touching]
  have direct := (clear place member).2 given concerned
  rw [leads] at direct
  exact Option.some.inj direct

theorem touches_path (place : Place) : touches place.part place.name place.path = true := by
  rw [Place.path, touches, beq_self_eq_true, beq_self_eq_true]
  rfl

/-- A variable that leads to a setting gives it. -/
theorem Clear.given?_eq (clear : Clear stem environment) (member : place ∈ places)
    {given : String × String} (among : given ∈ environment)
    (leads : path? stem given.1 = some place.path) :
    given? stem environment place = some given.2 := by
  have concerned : given ∈ concerning stem environment place := by
    refine List.mem_filter.mpr ⟨among, ?_⟩
    rw [leads, Option.any_some, touches_path]
  have once := (clear place member).1
  rw [given?]
  match concerning stem environment place, concerned, once with
  | [entry], concerned, _ =>
    cases List.mem_singleton.mp concerned
    rfl

/-- What variables place at a setting are leaves. -/
theorem Clear.direct (clear : Clear stem environment) (member : place ∈ places) :
    Direct place.part place.name (placed stem environment) := by
  intro entry here touching
  obtain ⟨given, among, leads, same⟩ := mem_placed.mp here
  refine ⟨clear.leads member among leads touching, ?_⟩
  rw [same]
  exact valueOf_leaf given.2

/-- What variables place is in no part as a whole. -/
theorem Clear.enters (clear : Clear stem environment) :
    ∀ entry ∈ placed stem environment, Enters parts entry.1 := by
  intro entry here
  obtain ⟨given, among, leads, -⟩ := mem_placed.mp here
  have apart : ∀ place ∈ places, touches place.part place.name entry.1 = true →
      entry.1 = place.path := fun _ member => clear.leads member among leads
  generalize entry.1 = path at apart
  have host : (⟨"server", "host"⟩ : Place) ∈ places := by decide
  match path, apart with
  | [], apart | .item _ :: _, apart => cases apart _ host rfl
  | .key first :: .key second :: rest, _ => exact .inside
  | [.key first], apart | .key first :: .item _ :: _, apart =>
    refine .elsewhere fun member => ?_
    -- each part has a setting, and a path to the part would have to do with it
    have inhabited : ∀ part ∈ parts, ∃ place ∈ places, place.part = part := by decide
    obtain ⟨place, known, rfl⟩ := inhabited first member
    cases apart place known (beq_self_eq_true place.part)

/-- The value that has been placed at a setting is that of the text which gives it. -/
theorem Clear.find?_eq (clear : Clear stem environment) (member : place ∈ places) :
    ((placed stem environment).reverse.find? fun entry =>
        touches place.part place.name entry.1).map (·.2) =
      (given? stem environment place).map Layers.valueOf := by
  have filtered : (placed stem environment).filter (fun entry =>
        touches place.part place.name entry.1) =
      (concerning stem environment place).filterMap fun entry =>
        Layers.setting? stem entry.1 entry.2 := by
    rw [placed, concerning, List.filter_filterMap, List.filterMap_filter]
    refine List.filterMap_congr fun entry _ => ?_
    rw [setting?_eq]
    cases path? stem entry.1 with
    | none => rfl
    | some path => cases touches place.part place.name path <;> rfl
  obtain ⟨once, direct⟩ := clear place member
  rw [← List.head?_filter, List.filter_reverse, filtered, given?]
  match concerning stem environment place, once, direct with
  | [], _, _ => rfl
  | [entry], _, direct =>
    have leads := direct entry (List.mem_singleton_self entry)
    rw [List.filterMap_cons, setting?_eq, leads]
    rfl

/-- **A setting has the value of the text that gives it**, after all variables have been laid out. -/
theorem at?_given (clear : Clear stem environment) (member : place ∈ places)
    (laid : Layers.underVariables stem environment (.table []) = .ok tree) :
    tree.at? place.part place.name = (given? stem environment place).map Layers.valueOf := by
  have laid : Layers.under (placed stem environment) (.table []) = .ok tree := laid
  rw [at?_under (clear.direct member) laid, clear.find?_eq member]
  exact Option.or_none

/-- A setting that no variable gives has its default. -/
theorem at?_merge_given (clear : Clear stem environment) (member : place ∈ places)
    (laid : Layers.underVariables stem environment (.table []) = .ok tree) :
    (defaults.merge tree).at? place.part place.name =
      ((given? stem environment place).map Layers.valueOf).or
        (defaults.at? place.part place.name) := by
  have parted : Parted parts tree := parted_under (parted_empty parts) clear.enters laid
  have known : ∀ place ∈ places, place.part ∈ parts := by decide
  rw [at?_merge parted (known place member), at?_given clear member laid]
  intro value there
  rw [at?_given clear member laid] at there
  obtain ⟨text, _, rfl⟩ := Option.map_eq_some_iff.mp there
  exact valueOf_leaf text

/-- The parts are tables. -/
theorem parts_merge (clear : Clear stem environment)
    (laid : Layers.underVariables stem environment (.table []) = .ok tree) :
    ∀ part ∈ parts, ∃ fields, (defaults.merge tree).get? part = some (.table fields) := by
  intro part member
  have parted : Parted parts tree := parted_under (parted_empty parts) clear.enters laid
  have tables : ∀ part ∈ parts, ∃ fields, defaults.get? part = some (.table fields) := by
    intro part member
    simp only [parts, List.mem_cons, List.not_mem_nil, or_false] at member
    rcases member with rfl | rfl | rfl <;> exact ⟨_, rfl⟩
  obtain ⟨fields, below⟩ := tables part member
  exact table_merge parted member below

end

/-! ### The settings -/

/-- The settings that want a text. -/
inductive TextSetting where
  | host
  | routeOracle
  | policy
  | metadataOracle
  | apiKey
  | directory
deriving DecidableEq, Repr

/-- Where the setting is. -/
def TextSetting.place : TextSetting → Place
  | .host => ⟨"server", "host"⟩
  | .routeOracle => ⟨"analyzer", "sciond_addr"⟩
  | .policy => ⟨"analyzer", "policy_manager_addr"⟩
  | .metadataOracle => ⟨"nip", "sciond_addr"⟩
  | .apiKey => ⟨"nip", "google_maps_api_key"⟩
  | .directory => ⟨"nip", "local_data_dir"⟩

/-- The setting, of which the last one may be missing. -/
def TextSetting.of (settings : Settings) : TextSetting → Option String
  | .host => some settings.server.host
  | .routeOracle => some settings.routes.oracleAddress
  | .policy => some settings.routes.policyAddress
  | .metadataOracle => some settings.metadata.oracleAddress
  | .apiKey => some settings.metadata.apiKey
  | .directory => settings.metadata.directory

/-- The settings that want a natural number. -/
inductive NumberSetting where
  | port
  | routeCache
  | routeTimeout
  | metadataCache
  | refresh
  | metadataTimeout
deriving DecidableEq, Repr

/-- Where the setting is. -/
def NumberSetting.place : NumberSetting → Place
  | .port => ⟨"server", "port"⟩
  | .routeCache => ⟨"analyzer", "cache_size"⟩
  | .routeTimeout => ⟨"analyzer", "upstream_timeout_ms"⟩
  | .metadataCache => ⟨"nip", "cache_size"⟩
  | .refresh => ⟨"nip", "refresh_interval_secs"⟩
  | .metadataTimeout => ⟨"nip", "upstream_timeout_ms"⟩

/-- The setting. -/
def NumberSetting.of (settings : Settings) : NumberSetting → Nat
  | .port => settings.server.listenPort
  | .routeCache => settings.routes.cacheSize
  | .routeTimeout => settings.routes.timeoutMillis
  | .metadataCache => settings.metadata.cacheSize
  | .refresh => settings.metadata.refreshSeconds
  | .metadataTimeout => settings.metadata.timeoutMillis

/-- The place of the one setting that wants a truth value. -/
def geolocationPlace : Place := ⟨"nip", "enable_geolocation"⟩

theorem TextSetting.place_mem (setting : TextSetting) : setting.place ∈ places := by
  cases setting <;> decide

theorem NumberSetting.place_mem (setting : NumberSetting) : setting.place ∈ places := by
  cases setting <;> decide

/-- What a setting makes of a number: the one for the port has 16 bits. -/
def NumberSetting.kept (number : Nat) : NumberSetting → Nat
  | .port => number % UInt16.size
  | .routeCache | .routeTimeout | .metadataCache | .refresh | .metadataTimeout => number

/-- The value at the place of a setting. -/
def value? (tree : SettingTree) (place : Place) : Option SettingTree :=
  tree.at? place.part place.name

/-- **Settings are what a tree has at their places.** -/
structure Reads (tree : SettingTree) (settings : Settings) : Prop where
  texts : ∀ setting : TextSetting,
    setting.of settings = (value? tree setting.place).bind SettingTree.text?
  numbers : ∀ setting : NumberSetting, ∃ number,
    (value? tree setting.place).bind SettingTree.natural? = some number ∧
      setting.of settings = setting.kept number
  geolocation :
    (value? tree geolocationPlace).bind SettingTree.truth? = some settings.metadata.geolocation

section

variable {tree : SettingTree} {settings : Settings}

theorem table_section? {part : String} {fields : List (String × SettingTree)}
    (table : tree.get? part = some (.table fields)) (names : List String) :
    Settings.section? tree part names = some (.table fields) := by
  rw [section?, table]
  rfl

theorem value?_of_table {part : String} {fields : List (String × SettingTree)}
    (table : tree.get? part = some (.table fields)) (name : String) :
    value? tree ⟨part, name⟩ = (SettingTree.table fields).get? name := by
  rw [value?, at?, table]
  rfl

theorem setting?_of_table {α : Type} {part : String} {fields : List (String × SettingTree)}
    (table : tree.get? part = some (.table fields)) (read : SettingTree → Option α)
    (name : String) :
    setting? read (.table fields) name = (value? tree ⟨part, name⟩).bind read := by
  rw [setting?, value?_of_table table]

theorem of_optionalText? {part : SettingTree} {name : String} {found : Option String}
    (read : optionalText? part name = some found) :
    found = (part.get? name).bind SettingTree.text? := by
  unfold optionalText? at read
  split at read
  · next missing =>
    rw [missing, ← Option.some.inj read]
    rfl
  · next missing =>
    rw [missing, ← Option.some.inj read]
    rfl
  · next value _ there =>
    obtain ⟨text, given, rfl⟩ := Option.map_eq_some_iff.mp read
    rw [there, Option.bind_some, given]

theorem isSome_optionalText? {part : SettingTree} {name : String}
    (read : part.get? name ≠ none → ((part.get? name).bind SettingTree.text?).isSome = true) :
    (optionalText? part name).isSome = true := by
  unfold optionalText?
  split
  · rfl
  · rfl
  · next value _ there =>
    rw [there] at read
    rw [Option.isSome_map]
    exact read (Option.some_ne_none value)

theorem reads_ofTree?
    (tables : ∀ part ∈ parts, ∃ fields, tree.get? part = some (.table fields))
    (read : ofTree? tree = some settings) : Reads tree settings := by
  obtain ⟨server, inServer⟩ := tables "server" (by decide)
  obtain ⟨routes, inRoutes⟩ := tables "analyzer" (by decide)
  obtain ⟨metadata, inMetadata⟩ := tables "nip" (by decide)
  unfold ofTree? at read
  obtain ⟨_, known, read⟩ := Option.bind_eq_some_iff.mp read
  cases (table_section? inServer serverNames).symm.trans known
  obtain ⟨_, known, read⟩ := Option.bind_eq_some_iff.mp read
  cases (table_section? inRoutes routeNames).symm.trans known
  obtain ⟨_, known, read⟩ := Option.bind_eq_some_iff.mp read
  cases (table_section? inMetadata metadataNames).symm.trans known
  -- the settings in the order in which they are read
  obtain ⟨host, hostRead, read⟩ := Option.bind_eq_some_iff.mp read
  obtain ⟨port, portRead, read⟩ := Option.bind_eq_some_iff.mp read
  obtain ⟨routeOracle, routeOracleRead, read⟩ := Option.bind_eq_some_iff.mp read
  obtain ⟨routeCache, routeCacheRead, read⟩ := Option.bind_eq_some_iff.mp read
  obtain ⟨policy, policyRead, read⟩ := Option.bind_eq_some_iff.mp read
  obtain ⟨routeTimeout, routeTimeoutRead, read⟩ := Option.bind_eq_some_iff.mp read
  obtain ⟨metadataOracle, metadataOracleRead, read⟩ := Option.bind_eq_some_iff.mp read
  obtain ⟨metadataCache, metadataCacheRead, read⟩ := Option.bind_eq_some_iff.mp read
  obtain ⟨apiKey, apiKeyRead, read⟩ := Option.bind_eq_some_iff.mp read
  obtain ⟨geolocation, geolocationRead, read⟩ := Option.bind_eq_some_iff.mp read
  obtain ⟨refresh, refreshRead, read⟩ := Option.bind_eq_some_iff.mp read
  obtain ⟨directory, directoryRead, read⟩ := Option.bind_eq_some_iff.mp read
  obtain ⟨metadataTimeout, metadataTimeoutRead, same⟩ := Option.bind_eq_some_iff.mp read
  rw [setting?_of_table inServer] at hostRead portRead
  rw [setting?_of_table inRoutes] at routeOracleRead routeCacheRead policyRead routeTimeoutRead
  rw [setting?_of_table inMetadata] at metadataOracleRead metadataCacheRead apiKeyRead
  rw [setting?_of_table inMetadata] at geolocationRead refreshRead metadataTimeoutRead
  cases same
  exact {
    texts := fun
      | .host => hostRead.symm
      | .routeOracle => routeOracleRead.symm
      | .policy => policyRead.symm
      | .metadataOracle => metadataOracleRead.symm
      | .apiKey => apiKeyRead.symm
      | .directory => (of_optionalText? directoryRead).trans
          (congrArg (·.bind SettingTree.text?) (value?_of_table inMetadata _).symm)
    numbers := fun
      | .port => ⟨port, portRead, rfl⟩
      | .routeCache => ⟨routeCache, routeCacheRead, rfl⟩
      | .routeTimeout => ⟨routeTimeout, routeTimeoutRead, rfl⟩
      | .metadataCache => ⟨metadataCache, metadataCacheRead, rfl⟩
      | .refresh => ⟨refresh, refreshRead, rfl⟩
      | .metadataTimeout => ⟨metadataTimeout, metadataTimeoutRead, rfl⟩
    geolocation := geolocationRead }

/-- A step that gives something can be followed by the rest. -/
theorem bind_defined {α β : Type} {first : Option α} {rest : α → Option β} {found : α}
    (there : first = some found) (more : ∃ result, rest found = some result) :
    ∃ result, first.bind rest = some result := by
  rw [there]
  exact more

/-- **A tree has settings if each of them can be read**; the one that may be missing need not be
there. -/
theorem isSome_ofTree?
    (tables : ∀ part ∈ parts, ∃ fields, tree.get? part = some (.table fields))
    (texts : ∀ setting : TextSetting, setting ≠ .directory ∨ value? tree setting.place ≠ none →
      ((value? tree setting.place).bind SettingTree.text?).isSome = true)
    (numbers : ∀ setting : NumberSetting,
      ((value? tree setting.place).bind SettingTree.natural?).isSome = true)
    (geolocation : ((value? tree geolocationPlace).bind SettingTree.truth?).isSome = true) :
    ∃ settings, ofTree? tree = some settings := by
  obtain ⟨server, inServer⟩ := tables "server" (by decide)
  obtain ⟨routes, inRoutes⟩ := tables "analyzer" (by decide)
  obtain ⟨metadata, inMetadata⟩ := tables "nip" (by decide)
  have text (setting : TextSetting) (required : setting ≠ .directory) :=
    Option.isSome_iff_exists.mp (texts setting (.inl required))
  have number (setting : NumberSetting) := Option.isSome_iff_exists.mp (numbers setting)
  obtain ⟨host, hostRead⟩ := text .host nofun
  obtain ⟨port, portRead⟩ := number .port
  obtain ⟨routeOracle, routeOracleRead⟩ := text .routeOracle nofun
  obtain ⟨routeCache, routeCacheRead⟩ := number .routeCache
  obtain ⟨policy, policyRead⟩ := text .policy nofun
  obtain ⟨routeTimeout, routeTimeoutRead⟩ := number .routeTimeout
  obtain ⟨metadataOracle, metadataOracleRead⟩ := text .metadataOracle nofun
  obtain ⟨metadataCache, metadataCacheRead⟩ := number .metadataCache
  obtain ⟨apiKey, apiKeyRead⟩ := text .apiKey nofun
  obtain ⟨flag, geolocationRead⟩ := Option.isSome_iff_exists.mp geolocation
  obtain ⟨refresh, refreshRead⟩ := number .refresh
  obtain ⟨directory, directoryRead⟩ : ∃ directory,
      optionalText? (.table metadata) "local_data_dir" = some directory := by
    refine Option.isSome_iff_exists.mp (isSome_optionalText? fun there => ?_)
    rw [← value?_of_table inMetadata] at there ⊢
    exact texts .directory (.inr there)
  obtain ⟨metadataTimeout, metadataTimeoutRead⟩ := number .metadataTimeout
  have fromServer {α : Type} {read : SettingTree → Option α} {name : String} {found : α}
      (there : (value? tree ⟨"server", name⟩).bind read = some found) :=
    (setting?_of_table inServer read name).trans there
  have fromRoutes {α : Type} {read : SettingTree → Option α} {name : String} {found : α}
      (there : (value? tree ⟨"analyzer", name⟩).bind read = some found) :=
    (setting?_of_table inRoutes read name).trans there
  have fromMetadata {α : Type} {read : SettingTree → Option α} {name : String} {found : α}
      (there : (value? tree ⟨"nip", name⟩).bind read = some found) :=
    (setting?_of_table inMetadata read name).trans there
  unfold ofTree?
  exact bind_defined (table_section? inServer serverNames) <|
    bind_defined (table_section? inRoutes routeNames) <|
    bind_defined (table_section? inMetadata metadataNames) <|
    bind_defined (fromServer hostRead) <| bind_defined (fromServer portRead) <|
    bind_defined (fromRoutes routeOracleRead) <| bind_defined (fromRoutes routeCacheRead) <|
    bind_defined (fromRoutes policyRead) <| bind_defined (fromRoutes routeTimeoutRead) <|
    bind_defined (fromMetadata metadataOracleRead) <|
    bind_defined (fromMetadata metadataCacheRead) <| bind_defined (fromMetadata apiKeyRead) <|
    bind_defined (fromMetadata geolocationRead) <| bind_defined (fromMetadata refreshRead) <|
    bind_defined directoryRead <| bind_defined (fromMetadata metadataTimeoutRead) ⟨_, rfl⟩

end

/-! ### Settings against the texts of the variables -/

/-- **Settings reflect the variables**: where a variable gives a setting, it is what is made of the
text; the others are as they are without variables. A port beyond 16 bits is left open here, and
described by `Clear.number_kept`. -/
structure Reflects (stem : String) (environment : List (String × String)) (settings : Settings) :
    Prop where
  texts : ∀ (setting : TextSetting) (text : String),
    given? stem environment setting.place = some text →
      ∃ written, (∀ other, Written text other ↔ other = written) ∧
        setting.of settings = some written
  numbers : ∀ (setting : NumberSetting) (text : String),
    given? stem environment setting.place = some text →
      ∃ number, (∀ other, Counted text other ↔ other = number) ∧
        (setting ≠ .port ∨ number < UInt16.size → setting.of settings = number)
  otherTexts : ∀ (setting : TextSetting) (standard : Settings),
    given? stem environment setting.place = none → ofVariables stem [] = .ok standard →
      setting.of settings = setting.of standard
  otherNumbers : ∀ (setting : NumberSetting) (standard : Settings),
    given? stem environment setting.place = none → ofVariables stem [] = .ok standard →
      setting.of settings = setting.of standard

/-- The text can be read as a truth value, where numbers count as well. -/
inductive Flagged (text : String) : Prop
  | word {value : Bool} (affirms : Decimal.Affirms text.toList value)
  | whole {value : Int} (whole : Whole text value)
  | real {value : Decimal.Binary} (real : Real text value)

/-- **What becomes of the texts of variables.** -/
structure Faithful (stem : String) (environment : List (String × String)) : Prop where
  /-- A variable that is named for a setting gives it its text. -/
  named : ∀ place ∈ places, ∀ text, (place.variableName stem, text) ∈ environment →
    given? stem environment place = some text
  /-- If loading succeeds the settings are what the variables give. -/
  reflects : ∀ settings, ofVariables stem environment = .ok settings →
    Reflects stem environment settings
  /-- A text that does not count as a number makes loading fail. -/
  refuses : ∀ (setting : NumberSetting) (text : String),
    given? stem environment setting.place = some text → (∀ number, ¬ Counted text number) →
      ∃ fault, ofVariables stem environment = .error fault
  /-- If all texts can be read where they have to, and no variable leads into a list, there are such
  settings, and nothing can be wrong with them but that they break a rule. -/
  loads : (∀ (setting : NumberSetting) (text : String),
      given? stem environment setting.place = some text → ∃ number, Counted text number) →
    (∀ text, given? stem environment geolocationPlace = some text → Flagged text) →
    (∀ entry ∈ environment, ∀ path, path? stem entry.1 = some path →
      ∀ step ∈ path, ∃ name, step = .key name) →
    ∃ settings, Reflects stem environment settings ∧
      ofVariables stem environment = settings.validated

section

variable {stem : String} {environment : List (String × String)} {tree : SettingTree}
  {settings : Settings}

theorem ofVariables_of_laid (laid : Layers.underVariables stem environment (.table []) = .ok tree) :
    ofVariables stem environment = ofTree tree := by
  rw [ofVariables, laid]
  rfl

theorem read_of_ofVariables (loads : ofVariables stem environment = .ok settings) :
    ∃ tree, Layers.underVariables stem environment (.table []) = .ok tree ∧
      ofTree? (defaults.merge tree) = some settings := by
  cases laid : Layers.underVariables stem environment (.table []) with
  | error fault =>
    rw [ofVariables, laid] at loads
    cases loads
  | ok tree =>
    rw [ofVariables_of_laid laid, ofTree] at loads
    refine ⟨tree, rfl, ?_⟩
    split at loads
    · next found =>
      rw [found]
      unfold validated at loads
      split at loads
      · cases loads
      · cases loads
        rfl
    · cases loads

/-- The value at the place of a setting, when all variables have been laid out. -/
theorem value?_merge (clear : Clear stem environment)
    (laid : Layers.underVariables stem environment (.table []) = .ok tree) {place : Place}
    (member : place ∈ places) :
    value? (defaults.merge tree) place =
      ((given? stem environment place).map Layers.valueOf).or (value? defaults place) :=
  at?_merge_given clear member laid

theorem clear_nil (stem : String) : Clear stem [] :=
  fun _ _ => ⟨Nat.zero_le _, fun _ member => absurd member List.not_mem_nil⟩

theorem isSome_text?_valueOf (text : String) : (Layers.valueOf text).text?.isSome = true := by
  have stands := stands_valueOf text
  generalize Layers.valueOf text = tree at stands ⊢
  cases stands with
  | truth | whole | real | itself => rfl

theorem Flagged.isSome_truth? {text : String} (flagged : Flagged text) :
    (Layers.valueOf text).truth?.isSome = true := by
  have stands := stands_valueOf text
  generalize Layers.valueOf text = tree at stands ⊢
  cases stands with
  | truth | whole | real => rfl
  | itself _ noWhole noReal =>
    cases flagged with
    | whole whole => exact absurd whole (noWhole _)
    | real real => exact absurd real (noReal _)
    | word affirms =>
      rw [SettingTree.truth?]
      split
      · rfl
      · split
        · rfl
        · rw [word?_eq_some.mpr affirms]
          rfl

theorem NumberSetting.kept_eq {setting : NumberSetting} {number : Nat}
    (fits : setting ≠ .port ∨ number < UInt16.size) : setting.kept number = number := by
  cases setting with
  | port =>
    rcases fits with apart | small
    · exact absurd rfl apart
    · exact Nat.mod_eq_of_lt small
  | routeCache | routeTimeout | metadataCache | refresh | metadataTimeout => rfl

/-- **A number that a variable gives is the one that its text counts as**, cut to 16 bits for the
port. -/
theorem Clear.number_kept (clear : Clear stem environment)
    (laid : Layers.underVariables stem environment (.table []) = .ok tree)
    (read : ofTree? (defaults.merge tree) = some settings) {setting : NumberSetting} {text : String}
    (given : given? stem environment setting.place = some text) :
    ∃ number, (∀ other, Counted text other ↔ other = number) ∧
      setting.of settings = setting.kept number := by
  have reads := reads_ofTree? (parts_merge clear laid) read
  obtain ⟨number, counted, same⟩ := reads.numbers setting
  rw [value?_merge clear laid setting.place_mem, given] at counted
  have counted : (Layers.valueOf text).natural? = some number := counted
  refine ⟨number, fun other => ?_, same⟩
  rw [← natural?_valueOf, counted, Option.some_inj, eq_comm]

/-- What is read from the tree reflects the variables. -/
theorem Clear.reflects (clear : Clear stem environment)
    (laid : Layers.underVariables stem environment (.table []) = .ok tree)
    (read : ofTree? (defaults.merge tree) = some settings) :
    Reflects stem environment settings := by
  have reads := reads_ofTree? (parts_merge clear laid) read
  have standardReads {standard : Settings} (loads : ofVariables stem [] = .ok standard) :
      Reads defaults standard := by
    obtain ⟨tree, laid, read⟩ := read_of_ofVariables loads
    cases laid
    exact reads_ofTree? (parts_merge (clear_nil stem) rfl) read
  constructor
  · intro setting text given
    have value := value?_merge clear laid setting.place_mem
    rw [given] at value
    obtain ⟨written, there⟩ := Option.isSome_iff_exists.mp (isSome_text?_valueOf text)
    refine ⟨written, fun other => ?_, ?_⟩
    · rw [← text?_valueOf, there, Option.some_inj, eq_comm]
    · rw [reads.texts setting, value]
      exact there
  · intro setting text given
    obtain ⟨number, counted, same⟩ := clear.number_kept laid read given
    exact ⟨number, counted, fun fits => same.trans (NumberSetting.kept_eq fits)⟩
  · intro setting standard absent loads
    have value := value?_merge clear laid setting.place_mem
    rw [absent] at value
    rw [reads.texts setting, (standardReads loads).texts setting, value]
    rfl
  · intro setting standard absent loads
    have value := value?_merge clear laid setting.place_mem
    rw [absent] at value
    obtain ⟨number, counted, same⟩ := reads.numbers setting
    obtain ⟨number', counted', same'⟩ := (standardReads loads).numbers setting
    rw [value] at counted
    cases Option.some.inj (counted.symm.trans counted')
    rw [same, same']

/-- Keys lead everywhere. -/
theorem under_of_keys (placed : List (List SettingStep × SettingTree))
    (keys : ∀ entry ∈ placed, ∀ step ∈ entry.1, ∃ name, step = .key name) {tree : SettingTree} :
    ∃ next, Layers.under placed tree = .ok next := by
  induction placed using List.reverseRecOn with
  | nil => exact ⟨tree, rfl⟩
  | append_singleton placed entry hypothesis =>
    obtain ⟨middle, laid⟩ := hypothesis fun other member => keys other (List.mem_append_left _ member)
    have last := keys entry (List.mem_append_right _ (List.mem_singleton_self _))
    obtain ⟨next, placed⟩ : ∃ next, place? entry.2 entry.1 middle = some next :=
      place?_of_keys last middle
    exact ⟨next, under_concat.mpr ⟨middle, laid, placed⟩⟩

section

variable (clear : Clear stem environment)
  (laid : Layers.underVariables stem environment (.table []) = .ok tree)

include clear laid

theorem Clear.isSome_text? (setting : TextSetting)
    (required : setting ≠ .directory ∨ value? (defaults.merge tree) setting.place ≠ none) :
    ((value? (defaults.merge tree) setting.place).bind SettingTree.text?).isSome = true := by
  rw [value?_merge clear laid setting.place_mem] at required ⊢
  generalize given? stem environment setting.place = given at required ⊢
  cases given with
  | some text => exact isSome_text?_valueOf text
  | none =>
    cases setting with
    | host | routeOracle | policy | metadataOracle | apiKey => rfl
    | directory =>
      rcases required with apart | there
      · exact absurd rfl apart
      · exact absurd rfl there

theorem Clear.isSome_natural? (setting : NumberSetting)
    (counted : ∀ text, given? stem environment setting.place = some text →
      ∃ number, Counted text number) :
    ((value? (defaults.merge tree) setting.place).bind SettingTree.natural?).isSome = true := by
  rw [value?_merge clear laid setting.place_mem]
  cases given : given? stem environment setting.place with
  | some text =>
    obtain ⟨number, counted⟩ := counted text given
    exact Option.isSome_iff_exists.mpr ⟨number, natural?_valueOf.mpr counted⟩
  | none => cases setting <;> rfl

theorem Clear.isSome_truth?
    (flagged : ∀ text, given? stem environment geolocationPlace = some text → Flagged text) :
    ((value? (defaults.merge tree) geolocationPlace).bind SettingTree.truth?).isSome = true := by
  rw [value?_merge clear laid (by decide)]
  cases given : given? stem environment geolocationPlace with
  | some text => exact (flagged text given).isSome_truth?
  | none => rfl

end

/-- **Variables of which each gives a setting of its own are taken as their texts read.** -/
theorem faithful_of_clear (clear : Clear stem environment) : Faithful stem environment where
  named place member text among := clear.given?_eq member among (path?_variableName stem member)
  reflects settings loads := by
    obtain ⟨tree, laid, read⟩ := read_of_ofVariables loads
    exact clear.reflects laid read
  refuses setting text given uncounted := by
    cases loads : ofVariables stem environment with
    | error fault => exact ⟨fault, rfl⟩
    | ok settings =>
      obtain ⟨tree, laid, read⟩ := read_of_ofVariables loads
      obtain ⟨number, counted, _⟩ := (clear.reflects laid read).numbers setting text given
      exact absurd ((counted number).mpr rfl) (uncounted number)
  loads numbers geolocation keys := by
    obtain ⟨tree, laid⟩ : ∃ tree, Layers.underVariables stem environment (.table []) = .ok tree :=
      under_of_keys _ fun entry member => by
        obtain ⟨given, among, leads, -⟩ := mem_placed.mp member
        exact keys given among entry.1 leads
    obtain ⟨settings, read⟩ := isSome_ofTree? (parts_merge clear laid)
      (fun setting required => clear.isSome_text? laid setting required)
      (fun setting => clear.isSome_natural? laid setting (numbers setting))
      (clear.isSome_truth? laid geolocation)
    refine ⟨settings, clear.reflects laid read, ?_⟩
    rw [ofVariables_of_laid laid, ofTree, read]

end

/-! ### Texts that are not kept -/

/-- Variables of which one has a text that reads as a number, and one has small letters. -/
def sampleVariables : List (String × String) :=
  [("HOPPIPOLLA_SERVER__PORT", "28001"), ("hoppipolla_analyzer__cache_size", "+012"),
    ("HOPPIPOLLA_NIP__GOOGLE_MAPS_API_KEY", "1.10"), ("HOPPIPOLLA_NIP__LOCAL_DATA_DIR", "data"),
    ("HOME", "1.10")]

theorem faithful_sampleVariables : Faithful "HOPPIPOLLA" sampleVariables ∧
    (ofVariables "HOPPIPOLLA" sampleVariables).map (fun settings =>
        (settings.server.listenPort, settings.routes.cacheSize, settings.metadata.apiKey,
          settings.metadata.directory)) = .ok (28001, 12, "1.1", some "data") :=
  ⟨faithful_of_clear (by decide +kernel), by decide +kernel⟩

/-- **A text is not always kept, and one that spells no integer may do for a number**: a key that
reads as a number loses a digit, and a fraction is rounded. -/
theorem texts_altered :
    (Clear "HOPPIPOLLA" [("HOPPIPOLLA_NIP__GOOGLE_MAPS_API_KEY", "1.10")] ∧
      given? "HOPPIPOLLA" [("HOPPIPOLLA_NIP__GOOGLE_MAPS_API_KEY", "1.10")]
        TextSetting.apiKey.place = some "1.10" ∧
      (ofVariables "HOPPIPOLLA" [("HOPPIPOLLA_NIP__GOOGLE_MAPS_API_KEY", "1.10")]).map
        (·.metadata.apiKey) = .ok "1.1") ∧
    (Clear "HOPPIPOLLA" [("HOPPIPOLLA_ANALYZER__CACHE_SIZE", "1.5")] ∧
      given? "HOPPIPOLLA" [("HOPPIPOLLA_ANALYZER__CACHE_SIZE", "1.5")]
        NumberSetting.routeCache.place = some "1.5" ∧
      (ofVariables "HOPPIPOLLA" [("HOPPIPOLLA_ANALYZER__CACHE_SIZE", "1.5")]).map
        (·.routes.cacheSize) = .ok 2) := by
  decide +kernel

end Wayfinder.Settings
