import Extremum.Plugin.Registry
import Extremum.Proofs.Success

/-!
# Registrations

A registry follows from the plugins that were installed at first and from the registrations since. A
registration succeeds if it is of a plugin and its name is new, up to case; else it changes nothing.
Plugins registered with priority are searched first, the last of them before all others, then come
the installed ones and then the rest. A qualified method goes past this order.
-/

namespace Extremum

variable {α : Type}

/-- An attempt to register a plugin; `none` stands for something that is no plugin. -/
structure Registration (α : Type) where
  name : String
  plugin : Option (Plugin α)
  priority : Bool

namespace Registration

/-- The name in the form in which names are compared. -/
def key (g : Registration α) : String := Text.lowercase g.name

/-- What is entered into a registry if the registration succeeds. -/
def listed? (g : Registration α) : Option (String × Plugin α) := g.plugin.map (g.key, ·)

end Registration

namespace Registry

def register (r : Registry α) (g : Registration α) : Except Fault (Registry α) :=
  r.add solverType g.name g.plugin g.priority

/-- The registry after a registration, whether it succeeds or fails. -/
def after (r : Registry α) (g : Registration α) : Registry α := (r.register g).toOption.getD r

def afterAll (r : Registry α) (gs : List (Registration α)) : Registry α := gs.foldl after r

/-- Those of some registrations that succeed, in order. -/
def accepted (r : Registry α) : List (Registration α) → List (Registration α)
  | [] => []
  | g :: gs =>
    match r.register g with
    | .ok r' => g :: accepted r' gs
    | .error _ => accepted r gs

/-- The names of a registry, in lower case. -/
def keys (r : Registry α) : List String := r.entries.map (·.1)

/-- Plugins in the order of the search, after the registrations that were accepted. -/
def searchOrder (installed : List (String × Option (Plugin α)))
    (accepted : List (Registration α)) : List (String × Plugin α) :=
  (accepted.filter (·.priority)).reverse.filterMap (·.listed?) ++
    installed.filterMap (fun (name, plugin) => plugin.map (Text.lowercase name, ·)) ++
      (accepted.filter (!·.priority)).filterMap (·.listed?)

/-- The plugin was installed, or registered since, under the name as it is spelled. -/
def IsRegistered (installed : List (String × Option (Plugin α)))
    (accepted : List (Registration α)) (name : String) (p : Plugin α) : Prop :=
  (name, some p) ∈ installed ∨ ∃ g ∈ accepted, g.name = name ∧ g.plugin = some p

variable {installed : List (String × Option (Plugin α))}
  {r r₀ r' : Registry α} {g : Registration α} {gs : List (Registration α)} {p : Plugin α}
  {key name method : String}

/-! ## One registration -/

theorem lookup?_isSome_iff : (r.lookup? key).isSome = true ↔ key ∈ r.keys := by
  unfold lookup? keys
  rw [List.lookup_isSome_iff, List.mem_map]
  exact exists_congr fun e => and_congr_right fun _ => beq_iff_eq.trans eq_comm

/-- A registration succeeds if it is of a plugin and the name is new. -/
theorem register_eq_ok : r.register g = .ok r' ↔ ∃ p, g.plugin = some p ∧ g.key ∉ r.keys ∧
    r' = ⟨if g.priority then (g.key, p) :: r.entries else r.entries ++ [(g.key, p)]⟩ := by
  cases hp : g.plugin with
  | none =>
      have hregister : r.register g = .error (.wrongPluginType solverType g.name) := by
        rw [register, hp]
        rfl
      simp [hregister]
  | some p =>
      have hregister : r.register g =
          if (r.lookup? g.key).isSome then .error (.duplicatePlugin g.key)
          else .ok ⟨if g.priority then (g.key, p) :: r.entries else r.entries ++ [(g.key, p)]⟩ := by
        rw [register, hp]
        rfl
      simp only [hregister, lookup?_isSome_iff, Option.some.injEq, exists_eq_left']
      by_cases hkey : g.key ∈ r.keys
      · simp [hkey]
      · simp [hkey, @eq_comm _ r']

theorem register_eq_error : (∃ fault, r.register g = .error fault) ↔
    g.plugin = none ∨ g.key ∈ r.keys := by
  cases h : r.register g with
  | ok r' =>
      obtain ⟨p, hp, hnew, -⟩ := register_eq_ok.1 h
      simp [hp, hnew]
  | error fault =>
      refine iff_of_true ⟨fault, rfl⟩ ?_
      by_contra hnot
      push Not at hnot
      obtain ⟨p, hp⟩ := Option.ne_none_iff_exists'.1 hnot.1
      cases h.symm.trans (register_eq_ok.2 ⟨p, hp, hnot.2, rfl⟩)

theorem after_of_ok (h : r.register g = .ok r') : r.after g = r' := by
  rw [after, h]
  rfl

theorem after_of_error {fault : Fault} (h : r.register g = .error fault) : r.after g = r := by
  rw [after, h]
  rfl

theorem nodup_keys_after (h : r.keys.Nodup) (g : Registration α) : (r.after g).keys.Nodup := by
  cases hg : r.register g with
  | error fault => rwa [after_of_error hg]
  | ok r' =>
      obtain ⟨p, -, hnew, rfl⟩ := register_eq_ok.1 hg
      rw [after_of_ok hg]
      cases hpriority : g.priority with
      | true => exact List.nodup_cons.2 ⟨hnew, h⟩
      | false =>
          have hkeys : keys ⟨r.entries ++ [(g.key, p)]⟩ = r.keys.concat g.key := by simp [keys]
          simpa only [Bool.false_eq_true, ↓reduceIte, hkeys] using h.concat hnew

/-! ## Any number of registrations -/

theorem nodup_keys_afterAll (h : r.keys.Nodup) (gs : List (Registration α)) :
    (r.afterAll gs).keys.Nodup := by
  induction gs generalizing r with
  | nil => exact h
  | cons g gs ih => exact ih (nodup_keys_after h g)

theorem accepted_sublist (r : Registry α) (gs : List (Registration α)) :
    (r.accepted gs).Sublist gs := by
  induction gs generalizing r with
  | nil => exact .slnil
  | cons g gs ih =>
      rw [accepted]
      cases r.register g with
      | ok r' => exact (ih r').cons_cons g
      | error fault => exact (ih r).cons g

/-- Accepted registrations go before all others or after them. -/
theorem entries_afterAll (r : Registry α) (gs : List (Registration α)) :
    (r.afterAll gs).entries = ((r.accepted gs).filter (·.priority)).reverse.filterMap (·.listed?) ++
      r.entries ++ ((r.accepted gs).filter (!·.priority)).filterMap (·.listed?) := by
  induction gs generalizing r with
  | nil => simp [afterAll, accepted]
  | cons g gs ih =>
      have hstep : r.afterAll (g :: gs) = (r.after g).afterAll gs := rfl
      rw [hstep, accepted]
      cases hg : r.register g with
      | error fault => simp only [after_of_error hg, ih]
      | ok r' =>
          obtain ⟨p, hp, -, rfl⟩ := register_eq_ok.1 hg
          have hlisted : g.listed? = some (g.key, p) := by rw [Registration.listed?, hp]; rfl
          -- what goes to the front goes before all that went there earlier
          simp only [after_of_ok hg, ih]
          cases hpriority : g.priority <;> simp [hpriority, hlisted]

theorem foldlM_register (h : installed.foldlM
      (fun r (name, plugin) => r.add solverType name plugin false) r = .ok r')
    (hkeys : r.keys.Nodup) : r'.keys.Nodup ∧ r'.entries = r.entries ++
      installed.filterMap fun (name, plugin) => plugin.map (Text.lowercase name, ·) := by
  induction installed generalizing r with
  | nil =>
      cases h
      exact ⟨hkeys, by simp⟩
  | cons e installed ih =>
      obtain ⟨name, plugin⟩ := e
      rw [List.foldlM_cons] at h
      obtain ⟨r₁, hregister, h⟩ := bind_eq_ok.1 h
      -- an installed plugin is registered without priority
      have hregister : r.register ⟨name, plugin, false⟩ = .ok r₁ := hregister
      have hnodup := nodup_keys_after hkeys ⟨name, plugin, false⟩
      rw [after_of_ok hregister] at hnodup
      obtain ⟨p, hp, -, hr₁⟩ := register_eq_ok.1 hregister
      obtain ⟨hkeys', hentries⟩ := ih h hnodup
      obtain rfl : plugin = some p := hp
      exact ⟨hkeys', by simp [hentries, hr₁, Registration.key]⟩

theorem ofInstalled_eq_ok (h : ofInstalled installed = .ok r) : r.keys.Nodup ∧
    r.entries = installed.filterMap fun (name, plugin) => plugin.map (Text.lowercase name, ·) :=
  foldlM_register h List.nodup_nil

theorem nodup_keys_of_installed (h : ofInstalled installed = .ok r₀)
    (gs : List (Registration α)) : (r₀.afterAll gs).keys.Nodup :=
  nodup_keys_afterAll (ofInstalled_eq_ok h).1 gs

theorem entries_of_installed (h : ofInstalled installed = .ok r₀) (gs : List (Registration α)) :
    (r₀.afterAll gs).entries = searchOrder installed (r₀.accepted gs) := by
  rw [entries_afterAll, (ofInstalled_eq_ok h).2, searchOrder]

theorem mem_searchOrder {accepted : List (Registration α)} :
    (key, p) ∈ searchOrder installed accepted ↔
      ∃ name, IsRegistered installed accepted name p ∧ Text.lowercase name = key := by
  have hlisted : ∀ g : Registration α, g.listed? = some (key, p) ↔
      g.plugin = some p ∧ Text.lowercase g.name = key := by
    intro g
    cases hp : g.plugin <;> simp [Registration.listed?, Registration.key, hp, and_comm]
  simp only [searchOrder, List.mem_append, List.mem_filterMap, List.mem_reverse, List.mem_filter,
    hlisted, IsRegistered]
  constructor
  · rintro ((⟨g, ⟨hg, -⟩, hp, hkey⟩ | ⟨⟨name, plugin⟩, hmem, h⟩) | ⟨g, ⟨hg, -⟩, hp, hkey⟩)
    · exact ⟨g.name, .inr ⟨g, hg, rfl, hp⟩, hkey⟩
    · obtain ⟨p', rfl, h⟩ := Option.map_eq_some_iff.1 h
      cases h
      exact ⟨name, .inl hmem, rfl⟩
    · exact ⟨g.name, .inr ⟨g, hg, rfl, hp⟩, hkey⟩
  · rintro ⟨name, hmem | ⟨g, hg, rfl, hp⟩, rfl⟩
    · exact .inl (.inr ⟨(name, some p), hmem, rfl⟩)
    · cases hpriority : g.priority with
      | true => exact .inl (.inl ⟨g, ⟨hg, hpriority⟩, hp, rfl⟩)
      | false => exact .inr ⟨g, ⟨hg, by simp [hpriority]⟩, hp, rfl⟩

/-! ## Lookups -/

theorem lookup?_eq_some (h : r.keys.Nodup) : r.lookup? key = some p ↔ (key, p) ∈ r.entries := by
  constructor
  · intro hlookup
    exact mem_of_lookup_eq_some hlookup
  · intro hmem
    obtain ⟨p', hp'⟩ := Option.isSome_iff_exists.1
      (lookup?_isSome_iff.2 (List.mem_map_of_mem (f := (·.1)) hmem))
    have hsame := List.inj_on_of_nodup_map h hmem (mem_of_lookup_eq_some hp') rfl
    rw [hp', (Prod.mk.inj hsame).2]

theorem ne_slash_of_mem {cs : List Char} (h : '/' ∉ cs) : ∀ c ∈ cs, decide (c ≠ '/') = true := by
  intro c hc
  simpa using fun heq : c = '/' => h (heq ▸ hc)

theorem splitSlash?_qualified (h : '/' ∉ name.toList) (method : String) :
    splitSlash? (name ++ "/" ++ method) = some (name, method) := by
  have hname := ne_slash_of_mem h
  have hlist : (name ++ "/" ++ method).toList = name.toList ++ '/' :: method.toList := by simp
  unfold splitSlash?
  rw [hlist, List.dropWhile_append_of_pos hname, List.takeWhile_append_of_pos hname]
  simp

theorem splitSlash?_bare (h : '/' ∉ method.toList) : splitSlash? method = none := by
  rw [splitSlash?, List.dropWhile_eq_nil_iff.2 (ne_slash_of_mem h)]

theorem find?_qualified (h : '/' ∉ name.toList) (method : String) :
    r.find? solverType (name ++ "/" ++ method) =
      .ok (((r.lookup? (Text.lowercase name)).filter (·.supports method)).map
        (Text.lowercase name, ·)) := by
  unfold find?
  rw [splitSlash?_qualified h]
  cases hp : r.lookup? (Text.lowercase name) with
  | none => simp [checkType, bind, Except.bind, pure, Except.pure, hp]
  | some p => cases hs : p.supports method <;>
      simp [checkType, bind, Except.bind, pure, Except.pure, hp, hs, Option.filter]

theorem find?_bare (h : '/' ∉ method.toList) (hdefault : method ≠ "default") :
    r.find? solverType method =
      .ok (r.entries.find? fun e => e.2.discoverable && e.2.supports method) := by
  unfold find?
  rw [splitSlash?_bare h]
  simp [hdefault, checkType, bind, Except.bind, pure, Except.pure]

theorem plugin_of_find? {found : Option (String × Plugin α)}
    (h : r.find? solverType method = .ok found) : r.plugin solverType method =
      (found.map (·.2.value)).elim (.error (.methodNotFound method)) .ok := by
  unfold plugin
  rw [h]
  cases found <;> rfl

theorem pluginName_of_find? {found : Option (String × Plugin α)}
    (h : r.find? solverType method = .ok found) :
    r.pluginName solverType method = .ok (found.map (·.1)) := by
  unfold pluginName
  rw [h]
  rfl

/-! ## After a run -/

/-- A registry follows from what was installed and from the registrations accepted since. -/
structure Follows (installed : List (String × Option (Plugin α)))
    (accepted : List (Registration α)) (r : Registry α) : Prop where
  unique : r.keys.Nodup
  order : r.entries = searchOrder installed accepted
  refused : ∀ g, (∃ fault, r.register g = .error fault) ↔ g.plugin = none ∨
    ∃ name p, IsRegistered installed accepted name p ∧ Text.lowercase name = Text.lowercase g.name
  unchanged : ∀ g fault, r.register g = .error fault → r.after g = r
  discovered : ∀ method, '/' ∉ method.toList → method ≠ "default" →
    r.pluginName solverType method = .ok (((searchOrder installed accepted).find? fun e =>
      e.2.discoverable && e.2.supports method).map (·.1))
  qualified : ∀ name method name' p, '/' ∉ name.toList → IsRegistered installed accepted name' p →
    Text.lowercase name' = Text.lowercase name → p.supports method = true →
      r.plugin solverType (name ++ "/" ++ method) = .ok p.value ∧
        r.pluginName solverType (name ++ "/" ++ method) = .ok (some (Text.lowercase name))
  missing : ∀ name method, '/' ∉ name.toList →
    (∀ name' p, IsRegistered installed accepted name' p →
      Text.lowercase name' = Text.lowercase name → p.supports method = false) →
      r.plugin solverType (name ++ "/" ++ method) =
          .error (.methodNotFound (name ++ "/" ++ method)) ∧
        r.pluginName solverType (name ++ "/" ++ method) = .ok none

variable {accepted : List (Registration α)}

theorem follows_of_order (hkeys : r.keys.Nodup)
    (horder : r.entries = searchOrder installed accepted) : Follows installed accepted r := by
  have hmem : ∀ key p, r.lookup? key = some p ↔
      ∃ name, IsRegistered installed accepted name p ∧ Text.lowercase name = key := by
    intro key p
    rw [lookup?_eq_some hkeys, horder, mem_searchOrder]
  refine ⟨hkeys, horder, fun g => ?_, fun g fault => after_of_error, ?_, ?_, ?_⟩
  · rw [register_eq_error, ← lookup?_isSome_iff, Option.isSome_iff_exists, exists_comm]
    simp only [hmem, Registration.key]
  · intro method hslash hdefault
    rw [pluginName_of_find? (find?_bare hslash hdefault), horder]
  · intro name method name' p hslash hp hname hs
    have hlookup := (hmem (Text.lowercase name) p).2 ⟨name', hp, hname⟩
    have hfind := find?_qualified (r := r) hslash method
    simp only [hlookup, Option.filter, hs, ↓reduceIte] at hfind
    exact ⟨plugin_of_find? hfind, pluginName_of_find? hfind⟩
  · intro name method hslash hnone
    have hfind := find?_qualified (r := r) hslash method
    have hfilter : (r.lookup? (Text.lowercase name)).filter (·.supports method) = none := by
      rw [Option.filter_eq_none_iff]
      intro p hp hs
      obtain ⟨name', hname', hsame⟩ := (hmem _ p).1 hp
      simp [hnone name' p hname' hsame] at hs
    rw [hfilter] at hfind
    exact ⟨plugin_of_find? hfind, pluginName_of_find? hfind⟩

/--
After any run of registrations, some of which may fail, the names of a registry are unique, and the
order of the search and all lookups follow from the registrations that succeeded.
-/
theorem follows_afterAll (h : ofInstalled installed = .ok r₀) (gs : List (Registration α)) :
    Follows installed (r₀.accepted gs) (r₀.afterAll gs) := by
  apply follows_of_order
  · apply nodup_keys_of_installed h
  · apply entries_of_installed h

/-- A plugin for methods with the given names in lower case. -/
def offering (methods : List String) (discoverable : Bool) (value : α) : Plugin α :=
  ⟨fun method => methods.contains (Text.lowercase method), discoverable, value⟩

/-- Of five registrations, one is of a name that is taken and one of no plugin. -/
def mixedRegistrations : List (Registration Nat) :=
  [⟨"Late", some (offering ["slsqp"] true 1), false⟩,
    ⟨"SciPy", some (offering ["slsqp"] true 2), true⟩,
    ⟨"Open", some (offering ["slsqp"] true 3), true⟩,
    ⟨"Other", none, false⟩,
    ⟨"Hidden", some (offering ["slsqp"] false 4), true⟩]

/-- The search finds one plugin, and a qualified method another one. -/
theorem follows_afterAll_mixed :
    let installed := [("scipy", some (offering ["slsqp"] true 0))]
    ∃ r₀ : Registry Nat, ofInstalled installed = .ok r₀ ∧
      (r₀.afterAll mixedRegistrations).keys = ["hidden", "open", "scipy", "late"] ∧
      (r₀.afterAll mixedRegistrations).pluginName solverType "SLSQP" = .ok (some "open") ∧
      (r₀.afterAll mixedRegistrations).plugin solverType "SciPy/slsqp" = .ok 0 := by
  intro installed
  obtain ⟨r₀, hr₀⟩ : ∃ r₀, ofInstalled installed = .ok r₀ := ⟨_, rfl⟩
  have h := follows_afterAll hr₀ mixedRegistrations
  cases hr₀
  refine ⟨_, rfl, ?_, ?_, ?_⟩
  · rw [keys, h.order]
    decide +kernel
  · rw [h.discovered _ (by decide) (by decide)]
    exact congrArg Except.ok (by decide +kernel)
  · exact (h.qualified "SciPy" "slsqp" "scipy" _ (by decide)
      (.inl (List.mem_singleton_self _)) (by decide +kernel) (by decide +kernel)).1

end Registry

end Extremum
