import StubProxy.Proofs.SettingPaths

/-!
# Layers over a tree of settings

The entries of a file are put into a tree one by one, and so are those that variables give. An entry
reaches the settings that its key leads to and no other, so what a layer leaves at the path of a
setting is the one value that it gives it, or what was there.

* `Fits.givesAt`, `Fits.engineTable`: what one entry does to the tree.
* `Layer.find?_addMembers`: what all entries of a layer do to it.
* `Assigns.layer`: the environment is a layer like a file.
-/

namespace StubProxy

open Text Setting

variable {k k' : ConfigKey} {s v : Setting} {e : String × Setting} {names : List String}

/-! ## Keys -/

namespace ConfigKey

/-- No setting is on the way to another. -/
theorem eq_of_isPrefix (h : k.path <+: k'.path) : k = k' := by
  revert h
  cases k <;> cases k' <;> decide

theorem path_cases (k : ConfigKey) : k.path = ["bypass"] ∨ ∃ name, k.path = ["engine", name] := by
  cases k
  case bypass => exact .inl rfl
  all_goals exact .inr ⟨_, rfl⟩

theorem path_ne_nil (k : ConfigKey) : k.path ≠ [] := by
  cases k <;> simp [path]

theorem path_ne_engine (k : ConfigKey) : k.path ≠ ["engine"] := by
  cases k <;> simp [path]

/-- A key that leads apart from a setting gives it nothing. -/
theorem valuesIn_of_apart (he : keyNames e.1 = some names) (hn : ¬ names <+: k.path) :
    k.valuesIn e = [] := by
  have hne : names ≠ k.path := by
    rintro rfl
    exact hn (List.prefix_refl _)
  rw [valuesIn, he, if_neg (by simpa using hne)]
  split
  · rename_i hengine
    obtain rfl := Option.some.inj hengine
    have hout : ∀ m ∈ e.2.members, k.valuesInEngine m = [] := by
      intro m _
      rw [valuesInEngine, if_neg]
      intro h
      exact hn (by simp [h])
    exact List.flatMap_eq_nil_iff.2 hout
  · rfl

end ConfigKey

namespace Setting

/-! ## One entry -/

theorem Elsewhere.leads {key : String} (h : Elsewhere key) :
    ∃ names, keyNames key = some names ∧ names ≠ [] ∧ names ≠ ["engine"] := by
  obtain ⟨names, hnames, hapart⟩ := h
  refine ⟨names, hnames, ?_, ?_⟩
  · rintro rfl
    exact (hapart .bypass).1 List.nil_prefix
  · rintro rfl
    exact (hapart .strictOrder).1 (by simp [ConfigKey.path])

/-- The key of an entry that fits leads through names, and only a table is given for the engine as a
whole. -/
theorem Fits.leads (h : Fits e) : ∃ names, keyNames e.1 = some names ∧ names ≠ [] ∧
    (names = ["engine"] → ∃ ms, e.2 = .table ms) := by
  rcases h with ⟨k, hk⟩ | ⟨hengine, htable⟩ | helse
  · exact ⟨k.path, hk, k.path_ne_nil, fun h => absurd h k.path_ne_engine⟩
  · exact ⟨["engine"], hengine, by simp, fun _ => htable⟩
  · obtain ⟨names, hnames, hnil, hne⟩ := helse.leads
    exact ⟨names, hnames, hnil, fun h => absurd h hne⟩

/-- An entry with a single name gives a member of the outermost table its value. -/
theorem putKey_eq_assign {key name : String} (h : keyNames key = some [name]) :
    ∃ written, settingName written = name ∧ ∀ s v, putKey key s v = s.assign written v := by
  obtain ⟨written, rest, hsteps, hname, hrest⟩ := exists_of_names h
  obtain rfl := eq_nil_of_names hrest
  refine ⟨written, hname, fun s v => ?_⟩
  rw [putKey, hsteps, put_member]

/-- What giving one option of the engine a value does to each of them. -/
theorem givesAt_assign {name : String} (hk : k.path = ["engine", name]) (m : String × Setting) :
    GivesAt [name] k.valuesInEngine (fun s m => s.assign m.1 m.2) m := by
  by_cases hm : name = settingName m.1
  · subst hm
    have hv : k.valuesInEngine m = [m.2] := by rw [ConfigKey.valuesInEngine, if_pos hk]
    exact .of_singleton hv fun s hr => find?_assign_self hr
  · have hv : k.valuesInEngine m = [] := by
      rw [ConfigKey.valuesInEngine, if_neg]
      simpa [hk] using hm
    exact .of_nil hv fun s => find?_assign_of_ne s m.2 hm

/-- An entry whose key leads apart from a setting leaves it as it was. -/
theorem givesAt_of_apart (he : keyNames e.1 = some names) (hn : ¬ names <+: k.path)
    (hp : ¬ k.path <+: names) : GivesAt k.path k.valuesIn (fun s e => s.putKey e.1 e.2) e :=
  .of_nil (ConfigKey.valuesIn_of_apart he hn) fun s => find?_put_of_apart he hn hp s e.2

/-- An entry whose key leads to a setting gives it its value. -/
theorem givesAt_of_leads (he : keyNames e.1 = some k.path) :
    GivesAt k.path k.valuesIn (fun s e => s.putKey e.1 e.2) e := by
  have hv : k.valuesIn e = [e.2] := by rw [ConfigKey.valuesIn, if_pos he]
  exact .of_singleton hv fun s hr => find?_put_self he k.path_ne_nil hr

/-- A table for the engine gives its options their values one by one. -/
theorem givesAt_of_engine {name : String} {ms : List (String × Setting)}
    (he : keyNames e.1 = some ["engine"]) (hms : e.2 = .table ms) (hk : k.path = ["engine", name]) :
    GivesAt k.path k.valuesIn (fun s e => s.putKey e.1 e.2) e := by
  have hv : k.valuesIn e = ms.flatMap k.valuesInEngine := by
    rw [ConfigKey.valuesIn, if_neg (by simp [he, hk]), if_pos he, hms]
    rfl
  obtain ⟨written, hw, hput⟩ := putKey_eq_assign he
  -- the options of the new table, over those of the table that was there
  have hfind : ∀ s : Setting, (s.putKey e.1 e.2).find? k.path =
      (ms.foldl (fun s m => s.assign m.1 m.2)
        ((s.members.lookup "engine").getD (.table []))).find? [name] := by
    intro s
    rw [hput, hms, hk, assign, hw, find?_update, if_pos rfl, assignAll_eq_foldl]
  have hold : ∀ s : Setting,
      ((s.members.lookup "engine").getD (.table [])).find? [name] = s.find? k.path := by
    intro s
    rw [hk, find?_getD rfl (by simp)]
  refine ⟨fun s h => ?_, fun s v h hr => ?_⟩
  · rw [hfind, GivesAt.foldl_skip (fun m _ => givesAt_assign hk m) (hv ▸ h), hold]
  · rw [hfind]
    refine GivesAt.foldl_give (fun m _ => givesAt_assign hk m) (hv ▸ h) ?_
    rwa [hold]

/-- **What an entry that fits does to a setting.** -/
theorem Fits.givesAt (h : Fits e) (k : ConfigKey) :
    GivesAt k.path k.valuesIn (fun s e => s.putKey e.1 e.2) e := by
  rcases h with ⟨k', hk'⟩ | ⟨hengine, ms, hms⟩ | ⟨names, hnames, hapart⟩
  · by_cases hk : k' = k
    · subst hk
      exact givesAt_of_leads hk'
    · refine givesAt_of_apart hk' (fun h => hk (ConfigKey.eq_of_isPrefix h)) fun h => ?_
      exact hk (ConfigKey.eq_of_isPrefix h).symm
  · rcases k.path_cases with hk | ⟨name, hk⟩
    · exact givesAt_of_apart hengine (by simp [hk]) (by simp [hk])
    · exact givesAt_of_engine hengine hms hk
  · exact givesAt_of_apart hnames (hapart k).1 (hapart k).2

/-- What is given for the engine as a whole, if anything, is a table. -/
def HasEngineTable (s : Setting) : Prop := ∀ v, s.find? ["engine"] = some v → ∃ ms, v = .table ms

/-- What a table for the engine is merged into. -/
theorem HasEngineTable.exists_getD (hs : HasEngineTable s) :
    ∃ es, (s.members.lookup "engine").getD (.table []) = .table es := by
  cases hl : s.members.lookup "engine" with
  | none => exact ⟨[], rfl⟩
  | some t =>
    obtain ⟨es, rfl⟩ := hs t (by rw [find?_singleton, hl])
    exact ⟨es, rfl⟩

theorem Fits.engineTable (h : Fits e) (hs : HasEngineTable s) :
    HasEngineTable (s.putKey e.1 e.2) := by
  obtain ⟨names, hnames, hnil, htable⟩ := h.leads
  obtain ⟨name, names, rfl⟩ := List.exists_cons_of_ne_nil hnil
  intro v hv
  by_cases hname : name = "engine"
  · subst hname
    by_cases hrest : names = []
    · -- the engine as a whole: two tables are merged
      subst hrest
      obtain ⟨ms, hms⟩ := htable rfl
      obtain ⟨written, hw, hput⟩ := putKey_eq_assign hnames
      obtain ⟨es, hes⟩ := hs.exists_getD
      obtain ⟨ms', hms'⟩ := exists_assignAll_eq_table ms es
      rw [hput, hms, assign, hw, find?_update, if_pos rfl, hes, hms', find?] at hv
      exact ⟨ms', (Option.some.inj hv).symm⟩
    · -- one of its options
      obtain ⟨ms, hms⟩ := find?_put_through hnames hrest s e.2
      exact ⟨ms, Option.some.inj (hv.symm.trans hms)⟩
  · have hput : (s.putKey e.1 e.2).find? ["engine"] = s.find? ["engine"] :=
      find?_put_of_apart hnames (by simp [hname]) (by simpa using Ne.symm hname) s e.2
    exact hs v (hput ▸ hv)

/-! ## A layer -/

variable {entries ms : List (String × Setting)} {given : ConfigKey → Option Setting}

/-- No layer gives anything but a table for the engine. -/
theorem engineTable_addMembers (h : ∀ e ∈ entries, Fits e) (hs : HasEngineTable s) :
    HasEngineTable (s.addMembers entries) := by
  induction entries generalizing s with
  | nil => exact hs
  | cons e entries ih =>
    rw [List.forall_mem_cons] at h
    exact ih h.2 (h.1.engineTable hs)

/-- **A layer over a tree**: where it gives a setting, the tree holds its value, and elsewhere what
it held. -/
theorem Layer.find?_addMembers (h : Layer entries given) (k : ConfigKey)
    (hr : ∀ v, given k = some v → Replaces v (s.find? k.path)) :
    Option.Rel Alike ((given k).or (s.find? k.path)) ((s.addMembers entries).find? k.path) := by
  have hstep : ∀ e ∈ entries, GivesAt k.path k.valuesIn (fun s e => s.putKey e.1 e.2) e :=
    fun e he => (h.fits e he).givesAt k
  have hvalues := h.values k
  cases hk : given k with
  | none =>
    rw [hk] at hvalues
    rw [addMembers, GivesAt.foldl_skip hstep hvalues, Option.none_or]
    cases s.find? k.path with
    | none => exact .none
    | some v => exact .some (.refl v)
  | some v =>
    rw [hk] at hvalues
    obtain ⟨w, hw, halike⟩ := GivesAt.foldl_give hstep hvalues (hr v hk)
    rw [addMembers, hw, Option.some_or]
    exact .some halike

/-! ## The environment -/

section Environment

variable {vars : List Variable} {assigned : ConfigKey → Option String}

/-- The entries that variables give. -/
def variableEntries (vars : List Variable) : List (String × Setting) :=
  vars.filterMap fun v => (variableKey v.1).map fun key => (key, ofVariable v.2)

theorem addVariables_eq (vars : List Variable) (s : Setting) :
    s.addVariables vars = s.addMembers (variableEntries vars) := by
  rw [addVariables, addMembers, variableEntries, List.foldl_filterMap]
  congr 1
  funext s v
  rw [addVariable]
  cases variableKey v.1 <;> rfl

theorem variableKey_of_settingName {a b : String} (h : settingName a = settingName b) :
    variableKey a = variableKey b := by
  have hlower : lower a.toList = lower b.toList := String.ofList_injective h
  rw [variableKey, variableKey, hlower]

/-- The name of its variable leads to a setting. -/
theorem keyNames_variableName (k : ConfigKey) :
    (variableKey k.variableName).bind keyNames = some k.path := by
  cases k <;> decide +kernel

theorem keyNames_of_variable {name key : String} (hkey : variableKey name = some key)
    (h : settingName name = settingName k.variableName) : keyNames key = some k.path := by
  have hnames := keyNames_variableName k
  rwa [← variableKey_of_settingName h, hkey, Option.bind_some] at hnames

/-- A variable gives the setting whose variable it is, and no other. -/
theorem valuesIn_variable {v : Variable} {key : String} (hkey : variableKey v.1 = some key)
    (h : (∃ k : ConfigKey, settingName v.1 = settingName k.variableName) ∨ Elsewhere key) :
    k.valuesIn (key, ofVariable v.2) =
      if settingName v.1 = settingName k.variableName then [ofVariable v.2] else [] := by
  by_cases hv : settingName v.1 = settingName k.variableName
  · rw [if_pos hv, ConfigKey.valuesIn, if_pos (keyNames_of_variable hkey hv)]
  · have hne : keyNames key ≠ some k.path := by
      intro hk
      rcases h with ⟨k', hk'⟩ | ⟨names, hnames, hapart⟩
      · have hpath : k'.path = k.path :=
          Option.some.inj ((keyNames_of_variable hkey hk').symm.trans hk)
        obtain rfl : k' = k := ConfigKey.eq_of_isPrefix (hpath ▸ List.prefix_refl _)
        exact hv hk'
      · obtain rfl := Option.some.inj (hnames.symm.trans hk)
        exact (hapart k).1 (List.prefix_refl _)
    -- what a variable gives is no table, so it holds no options of the engine either
    rw [if_neg hv, ConfigKey.valuesIn, if_neg hne]
    split <;> rfl

theorem flatMap_variableEntries
    (h : ∀ v ∈ vars, (∃ k : ConfigKey, settingName v.1 = settingName k.variableName) ∨
      ∀ key, variableKey v.1 = some key → Elsewhere key) (k : ConfigKey) :
    (variableEntries vars).flatMap k.valuesIn =
      ((vars.filter fun v => settingName v.1 = settingName k.variableName).map (·.2)).map
        ofVariable := by
  induction vars with
  | nil => rfl
  | cons v vars ih =>
    rw [List.forall_mem_cons] at h
    have hrest := ih h.2
    rw [variableEntries] at hrest ⊢
    cases hkey : variableKey v.1 with
    | none =>
      -- a variable without the prefix is not that of a setting
      have hv : ¬ settingName v.1 = settingName k.variableName := by
        intro hv
        have hnames := keyNames_variableName k
        rw [← variableKey_of_settingName hv, hkey] at hnames
        cases hnames
      rw [List.filterMap_cons_none (by simp [hkey]), hrest,
        List.filter_cons_of_neg (by simpa using hv)]
    | some key =>
      rw [List.filterMap_cons_some (b := (key, ofVariable v.2)) (by simp [hkey]), List.flatMap_cons,
        hrest, valuesIn_variable hkey (h.1.imp_right fun h => h key hkey)]
      by_cases hv : settingName v.1 = settingName k.variableName
      · rw [if_pos hv, List.filter_cons_of_pos (by simpa using hv)]
        rfl
      · rw [if_neg hv, List.filter_cons_of_neg (by simpa using hv), List.nil_append]

/-- **The environment is a layer** whose values come from variables. -/
theorem Assigns.layer (h : Assigns vars assigned) :
    Layer (variableEntries vars) fun k => (assigned k).map ofVariable := by
  refine ⟨fun k => ?_, fun e he => ?_⟩
  · rw [flatMap_variableEntries h.rest, h.values, Option.toList_map]
  · obtain ⟨v, hv, hentry⟩ := List.mem_filterMap.1 he
    obtain ⟨key, hkey, rfl⟩ := Option.map_eq_some_iff.1 hentry
    rcases h.rest v hv with ⟨k, hk⟩ | helse
    · exact .inl ⟨k, keyNames_of_variable hkey hk⟩
    · exact .inr (.inr (helse key hkey))

end Environment

end Setting

end StubProxy
