import StubProxy.Config.Layer

/-!
# Settings under their paths

Giving one setting a value leaves those of other paths as they were, however deep in the tree. A
table is merged into what is there; anything else replaces it.

* `Setting.find?`: the setting at the end of a path.
* `find?_update`: what a change of one member does to it, told for each path.
* `find?_assign_of_ne`, `find?_assign_self`: what giving a member a value does.
* `find?_put_of_apart`, `find?_put_self`: what a put does to other paths, and to its own.
* `GivesAt.foldl_skip`, `GivesAt.foldl_give`: what many entries do of which one at most gives the
  setting its value.
-/

namespace StubProxy

namespace Setting

variable {name m : String} {names path : List String} {steps : List Step}
  {s v absent : Setting}

/-- The setting at the end of a path of names. -/
def find? : List String → Setting → Option Setting
  | [], s => some s
  | name :: path, s => (s.members.lookup name).bind (find? path)

theorem find?_singleton (s : Setting) (name : String) : s.find? [name] = s.members.lookup name := by
  simp [find?]

/-- A setting that has no members leads nowhere. -/
theorem find?_of_no_members (hs : s.members = []) : s.find? (m :: path) = none := by
  simp [find?, hs]

/-- The same value, where one table is as good as another: no setting is read from a table. -/
inductive Alike : Setting → Setting → Prop
  | refl (v : Setting) : Alike v v
  | tables (ms ms' : List (String × Setting)) : Alike (.table ms) (.table ms')

/-- Whether giving a value undoes what was there: a table does not. -/
def Replaces (v : Setting) (old : Option Setting) : Prop := old = none ∨ ∀ ms, v ≠ .table ms

/-! ## Members -/

theorem lookup_cons_if (x : String × Setting) (ms : List (String × Setting)) (m : String) :
    (x :: ms).lookup m = if m = x.1 then some x.2 else ms.lookup m := by
  rw [List.lookup_cons]
  by_cases hm : m = x.1
  · simp [hm]
  · have hb : (m == x.1) = false := by simpa using hm
    rw [hb, if_neg hm]

theorem lookup_putMember (name : String) (v : Setting) (ms : List (String × Setting)) (m : String) :
    (putMember name v ms).lookup m = if m = name then some v else ms.lookup m := by
  induction ms with
  | nil => rw [putMember, lookup_cons_if]
  | cons x ms ih =>
    rw [putMember, lookup_cons_if x]
    by_cases hx : x.1 = name
    · rw [if_pos hx, lookup_cons_if, hx]
      by_cases hm : m = name
      · rw [if_pos hm, if_pos hm]
      · rw [if_neg hm, if_neg hm, if_neg hm]
    · rw [if_neg hx, lookup_cons_if, ih]
      by_cases hm : m = x.1
      · have hne : m ≠ name := fun h => hx (hm.symm.trans h)
        rw [if_pos hm, if_neg hne, if_pos hm]
      · rw [if_neg hm, if_neg hm]

/-- A change of one member, seen from each path. -/
theorem find?_update (s : Setting) (name : String) (absent : Setting) (f : Setting → Setting)
    (m : String) (path : List String) :
    (s.update name absent f).find? (m :: path) =
      if m = name then (f ((s.members.lookup name).getD absent)).find? path
      else s.find? (m :: path) := by
  have hm : (s.update name absent f).members =
      putMember name (f ((s.members.lookup name).getD absent)) s.members := rfl
  rw [find?, hm, lookup_putMember]
  split
  · rfl
  · rfl

/-- What is under a member that may be absent. -/
theorem find?_getD (ha : absent.members = []) (hp : path ≠ []) :
    ((s.members.lookup m).getD absent).find? path = s.find? (m :: path) := by
  obtain ⟨x, path, rfl⟩ := List.exists_cons_of_ne_nil hp
  have hs : s.find? (m :: x :: path) = (s.members.lookup m).bind (find? (x :: path)) := rfl
  rw [hs]
  cases s.members.lookup m with
  | none => exact find?_of_no_members ha
  | some t => rfl

/-! ## Giving a member a value -/

theorem assignAll_eq_foldl (ms : List (String × Setting)) (s : Setting) :
    assignAll ms s = ms.foldl (fun s m => s.assign m.1 m.2) s := by
  induction ms generalizing s with
  | nil => rw [assignAll, List.foldl_nil]
  | cons m ms ih => rw [assignAll, ih, List.foldl_cons]

theorem exists_assign_eq_table (s : Setting) (name : String) (v : Setting) :
    ∃ ms, s.assign name v = .table ms := by
  cases v <;> rw [assign] <;> exact ⟨_, rfl⟩

theorem exists_assignAll_eq_table (ms es : List (String × Setting)) :
    ∃ ms', assignAll ms (.table es) = .table ms' := by
  induction ms generalizing es with
  | nil => exact ⟨es, by rw [assignAll]⟩
  | cons m ms ih =>
    obtain ⟨es', h⟩ := exists_assign_eq_table (.table es) m.1 m.2
    rw [assignAll, h]
    exact ih es'

/-- Other members stay. -/
theorem find?_assign_of_ne (s v : Setting) (hm : m ≠ settingName name) :
    (s.assign name v).find? (m :: path) = s.find? (m :: path) := by
  cases v <;> rw [assign, find?_update, if_neg hm]

theorem find?_assign_self (hv : Replaces v (s.find? [settingName name])) :
    ∃ w, (s.assign name v).find? [settingName name] = some w ∧ Alike v w := by
  cases v with
  | scalar origin x => exact ⟨_, by rw [assign, find?_update, if_pos rfl, find?], .refl _⟩
  | list origin vs => exact ⟨_, by rw [assign, find?_update, if_pos rfl, find?], .refl _⟩
  | table ms =>
    -- nothing was there, so the members are merged into an empty table
    have hnone : s.members.lookup (settingName name) = none := by
      rcases hv with h | h
      · rwa [find?_singleton] at h
      · exact absurd rfl (h ms)
    obtain ⟨ms', h⟩ := exists_assignAll_eq_table ms []
    refine ⟨.table ms', ?_, .tables ms ms'⟩
    rw [assign, find?_update, if_pos rfl, hnone, Option.getD_none, h, find?]

/-! ## Giving the end of a path a value -/

theorem put_member (name : String) (s v : Setting) : put [.member name] s v = s.assign name v := by
  rw [put]

theorem put_through (name : String) (hs : steps ≠ []) (s v : Setting) :
    put (.member name :: steps) s v = s.update (settingName name) nil (put steps · v) := by
  obtain ⟨x, steps, rfl⟩ := List.exists_cons_of_ne_nil hs
  rw [put]
  simp

/-- Steps that lead through names start with the first of them. -/
theorem exists_of_names (h : steps.mapM Step.name? = some (m :: names)) :
    ∃ name rest, steps = .member name :: rest ∧ settingName name = m ∧
      rest.mapM Step.name? = some names := by
  cases steps with
  | nil => simp at h
  | cons x rest =>
    cases x with
    | item i => simp [Step.name?] at h
    | member name =>
      simp only [List.mapM_cons, Step.name?, Option.pure_def, Option.bind_eq_bind,
        Option.bind_some, Option.bind_eq_some_iff, Option.some.injEq, List.cons.injEq] at h
      obtain ⟨names', hrest, rfl, rfl⟩ := h
      exact ⟨name, rest, rfl, rfl, hrest⟩

theorem eq_nil_of_names (h : steps.mapM Step.name? = some []) : steps = [] := by
  cases steps with
  | nil => rfl
  | cons x rest => cases x <;> simp [Step.name?, Option.bind_eq_some_iff] at h

theorem ne_nil_of_names (h : steps.mapM Step.name? = some (m :: names)) : steps ≠ [] := by
  obtain ⟨name, rest, rfl, -⟩ := exists_of_names h
  simp

/-- A put leaves paths as they were that part from its own. -/
theorem find?_put_of_apart (hs : steps.mapM Step.name? = some names) (hn : ¬ names <+: path)
    (hp : ¬ path <+: names) (s v : Setting) : (put steps s v).find? path = s.find? path := by
  induction names generalizing steps path s with
  | nil => exact absurd (List.nil_prefix (l := path)) hn
  | cons n names ih =>
    obtain ⟨name, rest, rfl, rfl, hrest⟩ := exists_of_names hs
    cases path with
    | nil => exact absurd List.nil_prefix hp
    | cons m path =>
      cases names with
      | nil =>
        -- the last step: another member of the same table
        obtain rfl := eq_nil_of_names hrest
        have hm : m ≠ settingName name := by
          rintro rfl
          exact hn (by simp)
        rw [put_member, find?_assign_of_ne s v hm]
      | cons n' names =>
        rw [put_through name (ne_nil_of_names hrest), find?_update]
        by_cases hm : m = settingName name
        · rw [List.cons_prefix_cons, not_and] at hn hp
          have hne : path ≠ [] := by
            rintro rfl
            exact hp hm List.nil_prefix
          rw [if_pos hm, ih hrest (hn hm.symm) (hp hm), find?_getD rfl hne, hm]
        · rw [if_neg hm]

/-- At the end of its own path is what was put there. -/
theorem find?_put_self (hs : steps.mapM Step.name? = some names) (hn : names ≠ [])
    (hv : Replaces v (s.find? names)) : ∃ w, (put steps s v).find? names = some w ∧ Alike v w := by
  induction names generalizing steps s with
  | nil => exact absurd rfl hn
  | cons n names ih =>
    obtain ⟨name, rest, rfl, rfl, hrest⟩ := exists_of_names hs
    cases names with
    | nil =>
      obtain rfl := eq_nil_of_names hrest
      rw [put_member]
      exact find?_assign_self hv
    | cons n' names =>
      rw [put_through name (ne_nil_of_names hrest), find?_update, if_pos rfl]
      refine ih hrest (by simp) ?_
      rwa [find?_getD rfl (by simp)]

/-- What a put leads through is a table. -/
theorem find?_put_through (hs : steps.mapM Step.name? = some (m :: names)) (hn : names ≠ [])
    (s v : Setting) : ∃ ms, (put steps s v).find? [m] = some (.table ms) := by
  obtain ⟨name, rest, rfl, rfl, hrest⟩ := exists_of_names hs
  obtain ⟨n, names, rfl⟩ := List.exists_cons_of_ne_nil hn
  obtain ⟨name', rest, rfl, -⟩ := exists_of_names hrest
  have htable : ∀ t, ∃ ms, put (.member name' :: rest) t v = .table ms := by
    intro t
    cases rest with
    | nil =>
      rw [put_member]
      exact exists_assign_eq_table t name' v
    | cons x rest =>
      rw [put_through name' (by simp)]
      exact ⟨_, rfl⟩
  obtain ⟨ms, h⟩ := htable ((s.members.lookup (settingName name)).getD nil)
  refine ⟨ms, ?_⟩
  rw [put_through name (by simp), find?_update, if_pos rfl, h, find?]

/-! ## Many entries, one setting -/

variable {β : Type} {values : β → List Setting} {step : Setting → β → Setting} {es : List β} {e : β}

/-- What one entry does to the setting at the end of a path, for the values that it gives it: none
or one. -/
structure GivesAt (path : List String) (values : β → List Setting)
    (step : Setting → β → Setting) (e : β) : Prop where
  skip : ∀ s, values e = [] → (step s e).find? path = s.find? path
  give : ∀ s v, values e = [v] → Replaces v (s.find? path) →
    ∃ w, (step s e).find? path = some w ∧ Alike v w

theorem GivesAt.of_nil (hv : values e = []) (h : ∀ s, (step s e).find? path = s.find? path) :
    GivesAt path values step e := by
  refine ⟨fun s _ => h s, fun s v hv' _ => ?_⟩
  rw [hv] at hv'
  cases hv'

theorem GivesAt.of_singleton (hv : values e = [v])
    (h : ∀ s, Replaces v (s.find? path) → ∃ w, (step s e).find? path = some w ∧ Alike v w) :
    GivesAt path values step e := by
  refine ⟨fun s hv' => ?_, fun s v' hv' hr => ?_⟩
  · rw [hv] at hv'
    cases hv'
  · rw [hv] at hv'
    obtain rfl := List.singleton_inj.1 hv'
    exact h s hr

/-- Entries that give a setting no value leave it as it was. -/
theorem GivesAt.foldl_skip (h : ∀ e ∈ es, GivesAt path values step e)
    (hv : es.flatMap values = []) (s : Setting) : (es.foldl step s).find? path = s.find? path := by
  induction es generalizing s with
  | nil => rfl
  | cons e es ih =>
    rw [List.flatMap_cons, List.append_eq_nil_iff] at hv
    rw [List.forall_mem_cons] at h
    rw [List.foldl_cons, ih h.2 hv.2, h.1.skip s hv.1]

/-- **Of all entries one gives the setting its value**, and those around it do not matter. -/
theorem GivesAt.foldl_give (h : ∀ e ∈ es, GivesAt path values step e)
    (hv : es.flatMap values = [v]) (hr : Replaces v (s.find? path)) :
    ∃ w, (es.foldl step s).find? path = some w ∧ Alike v w := by
  induction es generalizing s with
  | nil => simp at hv
  | cons e es ih =>
    rw [List.flatMap_cons, List.append_eq_singleton_iff] at hv
    rw [List.forall_mem_cons] at h
    rw [List.foldl_cons]
    rcases hv with ⟨he, hes⟩ | ⟨he, hes⟩
    · refine ih h.2 hes ?_
      rwa [h.1.skip s he]
    · rw [foldl_skip h.2 hes]
      exact h.1.give s v he hr

end Setting

end StubProxy
