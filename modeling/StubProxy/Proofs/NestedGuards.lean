import Mathlib.Data.List.Induction
import StubProxy.Proofs.ProxyEnvironment

/-!
# Guards within guards

Guards may be installed while others are in force. As long as the latest is dropped first, each drop
puts back the variables and leaves in force the guards that its guard found, however many guards came
and went and whatever was set in between.

* `GuardedEnvironment.InOrder`: steps that drop guards in reverse order of their installation.
* `GuardedEnvironment.Stacked`: each guard in force keeps the state that it was installed in.
  `Stacked.step`, `stacked_run`: so it is after every step and after every run.
* `GuardedEnvironment.env_of_no_guard`: with no guard in force the variables are as at the start.
* `GuardedEnvironment.guards_nest`: what drops put back, and what installs export.
-/

namespace StubProxy.GuardedEnvironment

variable {s : GuardedEnvironment} {label url : String} {labels : List String} {xs : List Step}

/-- The state after some steps. -/
def run (s : GuardedEnvironment) (xs : List Step) : GuardedEnvironment := xs.foldl step s

theorem run_concat (s : GuardedEnvironment) (xs : List Step) (x : Step) :
    s.run (xs ++ [x]) = (s.run xs).step x := by
  simp [run]

/-- The labels in force, the latest first, after a step in order: an install takes a label that is
free, and a drop the latest one. -/
def Step.nest (labels : List String) : Step → Option (List String)
  | .set _ _ => some labels
  | .install label _ => if label ∈ labels then none else some (label :: labels)
  | .drop label => if labels.head? = some label then some labels.tail else none

/-- Guards are dropped in reverse order of their installation, from no guard in force on. -/
def InOrder (xs : List Step) : Prop := (xs.foldlM Step.nest []).isSome

instance (xs : List Step) : Decidable (InOrder xs) := inferInstanceAs (Decidable (_ = true))

theorem Step.nest_drop {labels' : List String} (h : (Step.drop label).nest labels = some labels') :
    labels = label :: labels' := by
  simp only [nest] at h
  split at h
  · rename_i hlatest
    obtain ⟨rest, rfl⟩ := List.head?_eq_some_iff.1 hlatest
    rw [← Option.some.inj h]
    rfl
  · cases h

theorem Step.nest_install {labels' : List String}
    (h : (Step.install label url).nest labels = some labels') :
    label ∉ labels ∧ labels' = label :: labels := by
  simp only [nest] at h
  split at h
  · cases h
  · rename_i hfree
    exact ⟨hfree, (Option.some.inj h).symm⟩

/-- A step in order, and the labels in force in front of it and behind. -/
theorem InOrder.split {pre post : List Step} {x : Step} (h : InOrder (pre ++ x :: post)) :
    ∃ labels labels', pre.foldlM Step.nest [] = some labels ∧ x.nest labels = some labels' := by
  unfold InOrder at h
  rw [List.foldlM_append] at h
  cases hpre : pre.foldlM Step.nest [] with
  | none =>
    rw [hpre] at h
    cases h
  | some labels =>
    rw [hpre] at h
    cases hx : x.nest labels with
    | none => simp [hx] at h
    | some labels' => exact ⟨labels, labels', rfl, hx⟩

/-! ## Single steps -/

theorem remove_of_free {guards : List (String × ProxyGuard)} (h : label ∉ guards.map (·.1)) :
    remove guards label = guards := by
  unfold remove
  rw [List.filter_eq_self]
  rintro p hp
  have hne : p.1 ≠ label := by
    rintro rfl
    exact h (List.mem_map_of_mem hp)
  simpa using hne

theorem lookup_of_free {guards : List (String × ProxyGuard)} (h : label ∉ guards.map (·.1)) :
    guards.lookup label = none := by
  rw [List.lookup_eq_none_iff]
  intro p hp
  have hne : label ≠ p.1 := by
    rintro rfl
    exact h (List.mem_map_of_mem hp)
  simpa using hne

/-- An install under a free label. -/
theorem step_install (h : label ∉ s.guards.map (·.1)) :
    s.step (.install label url) =
      ⟨s.env.exportProxy url, (label, (ProxyGuard.install url s.env).1) :: s.guards⟩ := by
  simp only [step, lookup_of_free h, remove_of_free h]
  rfl

/-- A drop of the latest guard. -/
theorem step_drop {g : ProxyGuard} {below : List (String × ProxyGuard)}
    (hs : s.guards = (label, g) :: below) (h : label ∉ below.map (·.1)) :
    s.step (.drop label) = ⟨g.restore s.env, below⟩ := by
  have hremove : remove s.guards label = below := by
    rw [hs, remove, List.filter_cons_of_neg (by simp)]
    exact remove_of_free h
  have hlookup : s.guards.lookup label = some g := by
    rw [hs, List.lookup_cons_self]
  simp only [step, hlookup, hremove]

/-! ## The guards in force -/

/-- The last guard under `label` was installed after the steps `before`. -/
def InstalledAfter (label : String) (xs before : List Step) : Prop :=
  ∃ url inside, xs = before ++ .install label url :: inside ∧ ∀ u, .install label u ∉ inside

theorem InstalledAfter.concat {before : List Step} {x : Step} (h : InstalledAfter label xs before)
    (hx : ∀ u, x ≠ .install label u) : InstalledAfter label (xs ++ [x]) before := by
  obtain ⟨url, inside, rfl, hinside⟩ := h
  refine ⟨url, inside ++ [x], by simp, ?_⟩
  intro u hu
  rcases List.mem_append.1 hu with hu | hu
  · exact hinside u hu
  · exact hx u (List.mem_singleton.1 hu).symm

/-- Each guard in force, together with those below it, is what it takes to go back to where it was
installed. -/
structure Stacked (start : GuardedEnvironment) (xs : List Step) (labels : List String) : Prop where
  labelled : (start.run xs).guards.map (·.1) = labels
  nodup : labels.Nodup
  installed : ∀ label g below, (label, g) :: below <:+ (start.run xs).guards →
    ∃ before, InstalledAfter label xs before ∧ below = (start.run before).guards ∧
      ∀ now, g.restore now = (start.run before).env

variable {start : GuardedEnvironment}

/-- **A step in order** keeps the guards stacked. -/
theorem Stacked.step {labels' : List String} {x : Step} (h : Stacked start xs labels)
    (hx : x.nest labels = some labels') : Stacked start (xs ++ [x]) labels' := by
  cases x with
  | set v value =>
    obtain rfl : labels = labels' := Option.some.inj hx
    refine ⟨by rw [run_concat]; exact h.labelled, h.nodup, ?_⟩
    intro label g below hsuffix
    rw [run_concat] at hsuffix
    obtain ⟨before, hi, hb, hg⟩ := h.installed label g below hsuffix
    exact ⟨before, hi.concat (by simp), hb, hg⟩
  | install label url =>
    obtain ⟨hfree, rfl⟩ := Step.nest_install hx
    have hnew : label ∉ (start.run xs).guards.map (·.1) := by rwa [h.labelled]
    refine ⟨by rw [run_concat, step_install hnew, List.map_cons, h.labelled],
      List.nodup_cons.2 ⟨hfree, h.nodup⟩, ?_⟩
    intro label' g below hsuffix
    rw [run_concat, step_install hnew] at hsuffix
    rcases List.suffix_cons_iff.1 hsuffix with htop | hold
    · -- the new guard has the state in front of it
      obtain ⟨hg, rfl⟩ := List.cons.inj htop
      obtain ⟨rfl, rfl⟩ := Prod.mk.inj hg
      refine ⟨xs, ⟨url, [], rfl, by simp⟩, rfl, ?_⟩
      intro now
      exact ProxyGuard.restore_install url _ now
    · obtain ⟨before, hi, hb, hg⟩ := h.installed label' g below hold
      have hmem : label' ∈ labels := by
        rw [← h.labelled]
        exact List.mem_map_of_mem (hold.subset List.mem_cons_self)
      refine ⟨before, hi.concat ?_, hb, hg⟩
      intro u hu
      obtain ⟨rfl, -⟩ := Step.install.inj hu
      exact hfree hmem
  | drop label =>
    obtain rfl := Step.nest_drop hx
    obtain ⟨⟨label', g⟩, below, hguards, rfl, hbelow⟩ := List.map_eq_cons_iff.1 h.labelled
    have hnodup := List.nodup_cons.1 h.nodup
    have hstep := step_drop hguards (by rw [hbelow]; exact hnodup.1)
    refine ⟨by rw [run_concat, hstep]; exact hbelow, hnodup.2, ?_⟩
    intro label' g' below' hsuffix
    rw [run_concat, hstep] at hsuffix
    have hold : (label', g') :: below' <:+ (start.run xs).guards := by
      rw [hguards]
      exact hsuffix.trans (List.suffix_cons _ _)
    obtain ⟨before, hi, hb, hg⟩ := h.installed label' g' below' hold
    exact ⟨before, hi.concat (by simp), hb, hg⟩

/-- **Steps in order** keep the guards stacked. -/
theorem stacked_run (hs : start.guards = []) (h : xs.foldlM Step.nest [] = some labels) :
    Stacked start xs labels := by
  -- from the last step on, as each step is judged by what the steps in front of it leave
  induction xs using List.reverseRecOn generalizing labels with
  | nil =>
    obtain rfl : [] = labels := Option.some.inj h
    refine ⟨by simp [run, hs], List.nodup_nil, ?_⟩
    intro label g below hsuffix
    simp [run, hs] at hsuffix
  | append_singleton xs x ih =>
    rw [List.foldlM_append] at h
    obtain ⟨labels', hxs, hx⟩ := Option.bind_eq_some_iff.1 h
    have hnest : x.nest labels' = some labels := by simpa using hx
    exact (ih hxs).step hnest

/-- A drop of the latest guard goes back to where it was installed. -/
theorem Stacked.drop (h : Stacked start xs (label :: labels)) :
    ∃ before, InstalledAfter label xs before ∧ start.run (xs ++ [.drop label]) = start.run before := by
  obtain ⟨⟨label', g⟩, below, hguards, rfl, hbelow⟩ := List.map_eq_cons_iff.1 h.labelled
  have hnodup := List.nodup_cons.1 h.nodup
  obtain ⟨before, hi, hb, hg⟩ := h.installed label' g below (hguards ▸ List.suffix_rfl)
  refine ⟨before, hi, ?_⟩
  rw [run_concat, step_drop hguards (by rw [hbelow]; exact hnodup.1), hg, hb]

/-- Where nothing is set outside the guards, leaving all of them brings back the start. -/
theorem env_of_no_guard
    (hdrop : ∀ pre label post, xs = pre ++ .drop label :: post →
      ∃ before, InstalledAfter label pre before ∧
        start.run (pre ++ [.drop label]) = start.run before)
    (hset : ∀ pre v value post, xs = pre ++ .set v value :: post → (start.run pre).guards ≠ [])
    (pre post : List Step) (hxs : xs = pre ++ post) (hnone : (start.run pre).guards = []) :
    (start.run pre).env = start.env := by
  -- a drop leads back to a shorter run that has no guard in force either
  induction hn : pre.length using Nat.strongRecOn generalizing pre post with
  | _ n ih =>
  rcases List.eq_nil_or_concat pre with rfl | ⟨pre', x, rfl⟩
  · rfl
  rw [List.concat_eq_append] at hxs hnone hn ⊢
  rw [List.append_assoc, List.singleton_append] at hxs
  cases x with
  | set v value =>
    rw [run_concat] at hnone
    exact absurd hnone (hset pre' v value post hxs)
  | install label url =>
    rw [run_concat] at hnone
    cases hnone
  | drop label =>
    obtain ⟨before, ⟨url, inside, rfl, -⟩, hrun⟩ := hdrop pre' label post hxs
    rw [hrun] at hnone ⊢
    refine ih before.length ?_ before _ (hxs.trans (List.append_assoc ..)) hnone rfl
    rw [← hn]
    simp only [List.length_append, List.length_cons]
    omega

/-- **Guards restore like a stack.** Let guards be installed and dropped from any variables on, each
drop taking the latest guard in force, with any sets and unsets at any points. Right after a drop,
all is as it was right before its guard was installed: the six variables and the guards in force.
Right after an install the four variables of the proxy have its URL and the two of the exceptions are
unset. And if nothing is set outside of all guards, the variables are as at the beginning whenever no
guard is in force, so after the outermost drop. -/
theorem guards_nest (env : Environment) (xs : List Step) (h : InOrder xs) :
    let start : GuardedEnvironment := ⟨env, []⟩
    (∀ pre label post, xs = pre ++ .drop label :: post →
      ∃ before, InstalledAfter label pre before ∧
        start.run (pre ++ [.drop label]) = start.run before) ∧
    (∀ pre label url post, xs = pre ++ .install label url :: post →
      ∀ v, (start.run (pre ++ [.install label url])).env v =
        if v ∈ ProxyVariable.exceptions then none else some url) ∧
    ((∀ pre v value post, xs = pre ++ .set v value :: post → (start.run pre).guards ≠ []) →
      ∀ pre post, xs = pre ++ post → (start.run pre).guards = [] → (start.run pre).env = env) := by
  intro start
  have hdrop : ∀ pre label post, xs = pre ++ .drop label :: post →
      ∃ before, InstalledAfter label pre before ∧
        start.run (pre ++ [.drop label]) = start.run before := by
    rintro pre label post rfl
    obtain ⟨labels, labels', hpre, hx⟩ := h.split
    obtain rfl := Step.nest_drop hx
    exact (stacked_run rfl hpre).drop
  refine ⟨hdrop, ?_, env_of_no_guard hdrop⟩
  rintro pre label url post rfl v
  obtain ⟨labels, labels', hpre, hx⟩ := h.split
  have hs : Stacked start pre labels := stacked_run rfl hpre
  have hfree : label ∉ (start.run pre).guards.map (·.1) := by
    rw [hs.labelled]
    exact (Step.nest_install hx).1
  rw [run_concat, step_install hfree]
  exact Environment.exportProxy_apply url _ v

/-- Three guards, two of them within the first, with a label taken twice and variables set and unset
in each. -/
theorem guards_nest_label_twice :
    let env : Environment := Environment.empty.set .exceptUpper (some "localhost")
    let inside : List Step := [.set .httpUpper (some "http://c.d:1"), .install "b" "http://b:2",
      .set .exceptLower (some "*"), .set .httpUpper none, .drop "b",
      .install "b" "http://b:3", .set .httpsLower none, .drop "b"]
    let xs : List Step := .install "a" "http://a:1" :: inside ++ [.drop "a"]
    let start : GuardedEnvironment := ⟨env, []⟩
    InOrder xs ∧
      (∃ before, InstalledAfter "b" (xs.take 5) before ∧
        start.run (xs.take 5 ++ [.drop "b"]) = start.run before) ∧
      (start.run (xs.take 6)).env .httpUpper = some "http://c.d:1" ∧
      (start.run (xs.take 7)).env .httpsLower = some "http://b:3" ∧ (start.run xs).env = env := by
  intro env inside xs start
  have horder : InOrder xs := by decide +kernel
  obtain ⟨hdrop, hinstall, hnone⟩ := guards_nest env xs horder
  refine ⟨horder, hdrop (xs.take 5) "b" (xs.drop 6) rfl, rfl,
    hinstall (xs.take 6) "b" "http://b:3" (xs.drop 7) rfl .httpsLower,
    hnone ?_ xs [] (List.append_nil xs).symm (by decide +kernel)⟩
  -- behind the first step the guard of `a` is in force until the last one
  have hforce : ∀ k < 10, 0 < k → (start.run (xs.take k)).guards.isEmpty = false := by
    decide +kernel
  intro pre v value post hset
  have htake : pre = xs.take pre.length := by rw [hset, List.take_left]
  have hlen : pre.length < 10 := by
    have hxs := congrArg List.length hset
    simp only [List.length_append, List.length_cons] at hxs
    have hten : xs.length = 10 := rfl
    omega
  cases pre with
  | nil => exact absurd hset (by simp [xs, inside])
  | cons x pre =>
    have hsome := hforce _ hlen (Nat.succ_pos _)
    rw [← htake] at hsome
    intro hempty
    rw [hempty] at hsome
    cases hsome

end StubProxy.GuardedEnvironment
