import StubProxy.Proofs.SettingLayers

/-!
# Configurations from layers

The tree of all settings is read from its top to its bottom. Setting by setting this comes to the
same as asking the environment first, the file next, and taking the default where neither gives a
value.

* `ConfigFile.find_eq_fileNotFound_iff`: a file is found where there is one.
* `ConfigKey.read`: how one setting is read from the value that is given, if one is.
* `ofSetting_eq_collect`: a tree is read setting by setting.
* `Config.load_per_setting`: so is a configuration from a file and the environment.
-/

namespace StubProxy

open Text Setting

variable {k : ConfigKey} {s v w : Setting} {ms : List (String × Setting)}

/-! ## The file -/

namespace ConfigFile

/-- **In whatever order the ends of names are tried**, a file is missing only if none is where it
may be. -/
theorem find_eq_fileNotFound_iff {formats : Formats} {files : FileSystem} {name : String} :
    find formats files name = .error (.fileNotFound name) ↔
      ∀ path ∈ paths name, ∃ e, files path = .error e := by
  have hmiss : ∀ path (f : List UInt8 → ConfigFile),
      (files path).toOption.map f = none ↔ ∃ e, files path = .error e := by
    intro path f
    cases files path <;> simp [Except.toOption]
  rw [find, paths, List.forall_mem_cons]
  cases hf : files name with
  | ok bytes => cases FileFormat.ofName name <;> simp
  | error e =>
    have hall : (formats.tried.findSome? fun format => format.suffixes.findSome? fun suffix =>
        (files (completed name suffix)).toOption.map fun bytes =>
          (⟨completed name suffix, format, bytes⟩ : ConfigFile)) = none ↔
        ∀ path ∈ (FileFormat.all.flatMap FileFormat.suffixes).map (completed name),
          ∃ e, files path = .error e := by
      simp only [List.findSome?_eq_none_iff, hmiss, List.forall_mem_map, List.mem_flatMap,
        forall_exists_index, and_imp]
      exact ⟨fun h suffix f _ hs => h f (formats.mem_tried f) suffix hs,
        fun h f _ suffix hs => h suffix f f.mem_all hs⟩
    rw [← hall]
    simp only [Except.error.injEq, exists_eq', true_and]
    split
    · rename_i file hfound
      simp [hfound]
    · rename_i hnone
      simp [hnone]

end ConfigFile

/-! ## One setting -/

namespace ConfigKey

/-- Values that are alike are converted alike. -/
theorem convert_alike (h : Alike v w) : k.convert v = k.convert w := by
  cases h with
  | refl => rfl
  | tables ms ms' =>
    -- what the tables hold is not even looked at
    cases k <;> rfl

/-- Reads a setting, which keeps its default where it is not given. -/
def read (k : ConfigKey) : Option Setting → Except ConfigError k.Value
  | none => .ok (Config.default.get k)
  | some v => k.convert v

theorem read_alike {o o' : Option Setting} (h : Option.Rel Alike o o') : k.read o = k.read o' := by
  cases h with
  | none => rfl
  | some h => exact convert_alike h

end ConfigKey

/-! ## Reading the tree -/

section Reading

variable {c : Config} {read : (k : ConfigKey) → Except ConfigError k.Value}

/-- Reads all settings, one after the other. -/
def Config.collect (read : (k : ConfigKey) → Except ConfigError k.Value) :
    Except ConfigError Config := do
  let bypass ← read .bypass
  let assertAllFired ← read .assertAllFired
  let strictOrder ← read .strictOrder
  let failOnUnmatched ← read .failOnUnmatched
  let exportProxyEnv ← read .exportProxyEnv
  let listenAddr ← read .listenAddr
  let logRequests ← read .logRequests
  let logResponses ← read .logResponses
  return ⟨bypass, assertAllFired, strictOrder, failOnUnmatched, exportProxyEnv, listenAddr,
    logRequests, logResponses⟩

/-- A computation of two steps succeeds if both do. -/
theorem bind_eq_ok {ε α β : Type} {x : Except ε α} {f : α → Except ε β} {b : β} :
    x >>= f = .ok b ↔ ∃ a, x = .ok a ∧ f a = .ok b := by
  cases x <;> simp [bind, Except.bind]

/-- A computation of two steps fails if one of them does. -/
theorem bind_eq_error {ε α β : Type} {x : Except ε α} {f : α → Except ε β} {d : ε} :
    x >>= f = .error d ↔ x = .error d ∨ ∃ a, x = .ok a ∧ f a = .error d := by
  cases x <;> simp [bind, Except.bind]

/-- All settings are read exactly if each of them is. -/
theorem collect_eq_ok_iff : Config.collect read = .ok c ↔ ∀ k, read k = .ok (c.get k) := by
  simp only [Config.collect, bind_eq_ok]
  constructor
  · rintro ⟨a, ha, b, hb, d, hd, e, he, f, hf, g, hg, i, hi, j, hj, hc⟩
    cases hc
    intro k
    cases k <;> assumption
  · intro h
    exact ⟨_, h .bypass, _, h .assertAllFired, _, h .strictOrder, _, h .failOnUnmatched,
      _, h .exportProxyEnv, _, h .listenAddr, _, h .logRequests, _, h .logResponses, rfl⟩

/-- An error is that of a setting. -/
theorem exists_of_collect_eq_error {d : ConfigError} (h : Config.collect read = .error d) :
    ∃ k, read k = .error d := by
  simp only [Config.collect, bind_eq_error] at h
  rcases h with h | ⟨-, -, h | ⟨-, -, h | ⟨-, -, h | ⟨-, -, h | ⟨-, -, h | ⟨-, -, h | ⟨-, -, h |
    ⟨_, _, ⟨⟩⟩⟩⟩⟩⟩⟩⟩⟩
  all_goals exact ⟨_, h⟩

/-- Settings that are all read make a configuration. -/
theorem exists_collect_eq_ok (h : ∀ k, ∃ x, read k = .ok x) : ∃ c, Config.collect read = .ok c := by
  cases hc : Config.collect read with
  | ok c => exact ⟨c, rfl⟩
  | error d =>
    obtain ⟨k, hk⟩ := exists_of_collect_eq_error hc
    obtain ⟨x, hx⟩ := h k
    rw [hk] at hx
    cases hx

/-- The options of the engine, each at the end of its path. -/
def engineSource (s : Setting) : OptionSource := fun _ name =>
  (s.find? ["engine", name]).map fun v => ("engine." ++ name, v)

theorem read_engineSource {α : Type} (s : Setting)
    (convert : String → Setting → Except ConfigError α) (i : Nat) (name : String) (absent : α) :
    (engineSource s).read convert i name absent =
      match s.find? ["engine", name] with
      | none => .ok absent
      | some v => convert ("engine." ++ name) v := by
  rw [OptionSource.read, engineSource]
  cases s.find? ["engine", name] <;> rfl

theorem bypass_eq_read (s : Setting) :
    (match s.members.lookup "bypass" with
      | some v => v.toFlag "bypass"
      | none => pure Config.default.bypass) = ConfigKey.bypass.read (s.find? ["bypass"]) := by
  rw [find?_singleton]
  cases s.members.lookup "bypass" <;> rfl

theorem engine_eq_ofSource (hs : HasEngineTable s) :
    (match s.members.lookup "engine" with
      | some v => Options.ofSetting v
      | none => pure Config.default.engine) = Options.ofSource (engineSource s) := by
  have hfind : ∀ name, s.find? ["engine", name] =
      (s.members.lookup "engine").bind fun t => t.members.lookup name := by
    intro name
    simp [find?]
  cases hl : s.members.lookup "engine" with
  | none =>
    have hsource : engineSource s = fun _ _ => none := by
      funext i name
      rw [engineSource, hfind, hl]
      rfl
    rw [hsource]
    rfl
  | some t =>
    obtain ⟨ms, rfl⟩ := hs t (by rw [find?_singleton, hl])
    have hsource : engineSource s =
        fun _ name => (ms.lookup name).map fun v => ("engine." ++ name, v) := by
      funext i name
      rw [engineSource, hfind, hl]
      rfl
    rw [hsource]
    rfl

/-- **A tree is read setting by setting**, if it holds a table for the engine or nothing. -/
theorem ofSetting_eq_collect (hs : HasEngineTable s) :
    Config.ofSetting s = Config.collect fun k => k.read (s.find? k.path) := by
  have hsplit : Config.ofSetting s = (do
      let bypass ← ConfigKey.bypass.read (s.find? ["bypass"])
      let engine ← Options.ofSource (engineSource s)
      return ⟨bypass, engine⟩) := by
    rw [← bypass_eq_read, ← engine_eq_ofSource hs, Config.ofSetting]
    cases s.members.lookup "bypass" <;> cases s.members.lookup "engine" <;> rfl
  rw [hsplit]
  simp only [Config.collect, Options.ofSource, read_engineSource, bind_assoc, pure_bind]
  rfl

end Reading

/-! ## Both layers -/

namespace Config

variable {formats : Formats} {files : FileSystem} {file : Option String} {vars : List Variable}
  {given : ConfigKey → Option Setting} {assigned : ConfigKey → Option String}

/-- Two layers in one tree are read as the value that counts of each setting. -/
theorem layered_eq_collect (hg : Layer ms given) (hv : Assigns vars assigned) :
    layered ms vars = collect fun k => k.read (k.effective assigned given) := by
  have hempty : ∀ name path, (Setting.table []).find? (name :: path) = none :=
    fun name path => find?_of_no_members rfl
  have htable : HasEngineTable (.table []) := by
    intro v hv
    rw [hempty] at hv
    cases hv
  have hboth := engineTable_addMembers hv.layer.fits (engineTable_addMembers hg.fits htable)
  rw [layered, addVariables_eq, ofSetting_eq_collect hboth]
  congr 1
  funext k
  -- the file fills an empty tree, and no variable gives a table, so neither is merged with anything
  have hnone : (Setting.table []).find? k.path = none := by
    obtain ⟨name, path, hk⟩ := List.exists_cons_of_ne_nil k.path_ne_nil
    rw [hk, hempty]
  have hfile := hg.find?_addMembers k fun v _ => .inl hnone
  have henv := hv.layer.find?_addMembers (s := (Setting.table []).addMembers ms) k fun v hv => by
    obtain ⟨t, -, rfl⟩ := Option.map_eq_some_iff.1 hv
    exact .inr fun ms h => by cases h
  rw [hnone, Option.or_none] at hfile
  rw [← ConfigKey.read_alike henv, ConfigKey.effective]
  cases assigned k with
  | none => exact (ConfigKey.read_alike hfile).symm
  | some t => rfl

/-- **A configuration is resolved setting by setting.** From any file that can be read, or none, and
any environment, it is loaded exactly if every value that counts can be converted to the type of its
setting. Then each setting has its value, or its default where neither the file nor the environment
gives one, whatever is given for the others. Otherwise there is the error of such a value and no
configuration. -/
theorem load_per_setting (hf : fileSettings formats files file = .ok ms) (hg : Layer ms given)
    (hv : Assigns vars assigned) :
    ((∃ c, load formats files file vars = .ok c) ↔
        ∀ (k : ConfigKey) v, k.effective assigned given = some v → ∃ x, k.convert v = .ok x) ∧
      (∀ c, load formats files file vars = .ok c → ∀ k : ConfigKey,
        (k.effective assigned given = none → c.get k = default.get k) ∧
          ∀ v, k.effective assigned given = some v → k.convert v = .ok (c.get k)) ∧
      ∀ d, load formats files file vars = .error d →
        ∃ (k : ConfigKey) (v : Setting), k.effective assigned given = some v ∧
          k.convert v = .error d := by
  have hload : load formats files file vars =
      collect fun k => k.read (k.effective assigned given) := by
    rw [load, hf, ← layered_eq_collect hg hv]
    rfl
  rw [hload]
  refine ⟨⟨?_, ?_⟩, ?_, ?_⟩
  · rintro ⟨c, hc⟩ k v hk
    have hread := collect_eq_ok_iff.1 hc k
    rw [hk] at hread
    exact ⟨_, hread⟩
  · intro h
    refine exists_collect_eq_ok fun k => ?_
    cases hk : k.effective assigned given with
    | none => exact ⟨_, rfl⟩
    | some v => exact h k v hk
  · intro c hc k
    have hread := collect_eq_ok_iff.1 hc k
    refine ⟨fun hk => ?_, fun v hk => ?_⟩
    · rw [hk] at hread
      exact (Except.ok.inj hread).symm
    · rwa [hk] at hread
  · intro d hd
    obtain ⟨k, hk⟩ := exists_of_collect_eq_error hd
    cases hv : k.effective assigned given with
    | none =>
      rw [hv] at hk
      cases hk
    | some v =>
      rw [hv] at hk
      exact ⟨k, v, hv, hk⟩

/-- A bad value in the file that a variable overrides, options of the engine both under their own
key and in a table in letters of two sizes, and options that nothing gives. -/
theorem load_per_setting_overridden :
    let files : FileSystem := fun _ => .ok (Utf8.encode
      "bypass = []\n\"engine.strict_order\" = 1\n[Engine]\nLog_Requests = \"off\"\n".toList)
    let origin : Origin := .file "c.toml"
    let ms : List (String × Setting) :=
      [("bypass", .list origin []), ("engine.strict_order", .scalar origin (.integer 1)),
        ("Engine", .table [("Log_Requests", .scalar origin (.text "off"))])]
    let given : ConfigKey → Option Setting
      | .bypass => some (.list origin [])
      | .strictOrder => some (.scalar origin (.integer 1))
      | .logRequests => some (.scalar origin (.text "off"))
      | _ => none
    let vars : List Variable :=
      [("PATH", "/bin"), ("RESPONSEMOCK_BYPASS", "yes"),
        ("responsemock_engine__log_responses", "0")]
    let assigned : ConfigKey → Option String
      | .bypass => some "yes"
      | .logResponses => some "0"
      | _ => none
    fileSettings .builtIn files (some "c.toml") = .ok ms ∧ Layer ms given ∧ Assigns vars assigned ∧
      ∃ c, load .builtIn files (some "c.toml") vars = .ok c ∧ c.bypass = true ∧
        c.engine.strictOrder = true ∧ c.engine.logRequests = false ∧
        c.engine.logResponses = false ∧ c.engine.assertAllFired = true ∧
        c.engine.listenAddr = .loopback := by
  intro files origin ms given vars assigned
  have hf : fileSettings .builtIn files (some "c.toml") = .ok ms := by
    have hread : (fileSettings .builtIn files (some "c.toml")).toOption = some ms := by decide +kernel
    cases h : fileSettings .builtIn files (some "c.toml") with
    | ok ms' =>
      rw [h] at hread
      rw [Option.some.inj hread]
    | error d =>
      rw [h] at hread
      cases hread
  have hg : Layer ms given := by
    refine ⟨fun k => ?_, ?_⟩
    · cases k <;> decide +kernel
    · simp only [ms, List.forall_mem_cons, List.not_mem_nil, false_imp_iff, implies_true, and_true]
      refine ⟨.inl ⟨.bypass, ?_⟩, .inl ⟨.strictOrder, ?_⟩, .inr (.inl ⟨?_, _, rfl⟩)⟩
      all_goals decide +kernel
  have hv : Assigns vars assigned := by
    refine ⟨fun k => ?_, ?_⟩
    · cases k <;> decide +kernel
    · have hnone : variableKey "PATH" = none := by decide +kernel
      simp only [vars, List.forall_mem_cons, List.not_mem_nil, false_imp_iff, implies_true,
        and_true]
      refine ⟨.inr fun key hkey => ?_, .inl ⟨.bypass, ?_⟩, .inl ⟨.logResponses, ?_⟩⟩
      · rw [hnone] at hkey
        cases hkey
      all_goals decide +kernel
  have h := load_per_setting hf hg hv
  obtain ⟨c, hc⟩ := h.1.2 fun k v hk => by
    cases k <;> cases hk <;> exact ⟨_, rfl⟩
  have hgiven : ∀ (k : ConfigKey) (x : k.Value),
      (∃ v, k.effective assigned given = some v ∧ k.convert v = .ok x) → c.get k = x := by
    rintro k x ⟨v, hv, hx⟩
    exact Except.ok.inj (((h.2.1 c hc k).2 v hv).symm.trans hx)
  refine ⟨hf, hg, hv, c, hc, ?_, ?_, ?_, ?_, ?_, ?_⟩
  · exact hgiven .bypass true ⟨_, rfl, rfl⟩
  · exact hgiven .strictOrder true ⟨_, rfl, rfl⟩
  · exact hgiven .logRequests false ⟨_, rfl, rfl⟩
  · exact hgiven .logResponses false ⟨_, rfl, rfl⟩
  · exact (h.2.1 c hc .assertAllFired).1 rfl
  · exact (h.2.1 c hc .listenAddr).1 rfl

end Config

end StubProxy
