import Extremum.Numeric.Provider
import Extremum.Proofs.Plugin.Registration
import Extremum.Proofs.Text.Lowercase

/-!
# Methods in any case

The name of a plugin and the name of a method are read without regard to case, by all plugins that
do so themselves. Only the refusal of the word for the default method, where it is not qualified, is
for one spelling of it. Any other spelling selects a plugin, if the numerical backend is there.
-/

namespace Extremum

open Text

variable {α : Type}

/-- A plugin that supports a method supports it in any case. -/
def Plugin.IgnoresCase (p : Plugin α) : Prop :=
  ∀ method method', SameLetters method method' → p.supports method = p.supports method'

/-- The same fault, or the same fault for another method that is not there. -/
inductive Fault.SameKind : Fault → Fault → Prop where
  | refl (fault : Fault) : SameKind fault fault
  | methodNotFound (method method' : String) :
    SameKind (.methodNotFound method) (.methodNotFound method')

/-- The same result, or faults of the same kind. -/
inductive SameOutcome : Except Fault α → Except Fault α → Prop where
  | ok (a : α) : SameOutcome (.ok a) (.ok a)
  | error {fault fault' : Fault} : fault.SameKind fault' →
    SameOutcome (.error fault) (.error fault')

theorem SameOutcome.symm {x y : Except Fault α} (h : SameOutcome x y) : SameOutcome y x := by
  cases h with
  | ok a => exact .ok a
  | error hkind =>
      cases hkind with
      | refl => exact .error (.refl _)
      | methodNotFound method method' => exact .error (.methodNotFound method' method)

namespace Registry

/-- Two methods select the same plugin, or none, or they fail in the same way. -/
structure SameSelection (r : Registry α) (method method' : String) : Prop where
  plugin : SameOutcome (r.plugin solverType method) (r.plugin solverType method')
  pluginName : SameOutcome (r.pluginName solverType method) (r.pluginName solverType method')

variable {r : Registry α} {method method' : String}

theorem SameSelection.symm (h : r.SameSelection method method') :
    r.SameSelection method' method := ⟨h.plugin.symm, h.pluginName.symm⟩

/-! ## Lookups -/

theorem splitSlash?_toLower (s : String) :
    splitSlash? s.toLower = (splitSlash? s).map (Prod.map String.toLower String.toLower) := by
  have hlist : s.toLower.toList = s.toList.map Char.toLower := String.toList_map
  unfold splitSlash?
  rw [hlist, dropWhile_toLower toLower_ne_slash, takeWhile_toLower toLower_ne_slash]
  cases s.toList.dropWhile (· ≠ '/') with
  | nil => rfl
  | cons c rest => simp [toLower_ofList]

theorem splitSlash?_of_sameLetters (h : SameLetters method method') :
    (splitSlash? method).map (Prod.map String.toLower String.toLower) =
      (splitSlash? method').map (Prod.map String.toLower String.toLower) := by
  rw [← splitSlash?_toLower, h, splitSlash?_toLower]

theorem find?_of_sameLetters (h : SameLetters method method')
    (hignore : ∀ e ∈ r.entries, e.2.IgnoresCase)
    (hdefault : method = "default" ↔ method' = "default") :
    r.find? solverType method = r.find? solverType method' := by
  -- either both methods are qualified or none of them is
  have hparts := splitSlash?_of_sameLetters h
  unfold find?
  cases hm : splitSlash? method with
  | none =>
      obtain hm' : splitSlash? method' = none := by simpa [hm] using hparts.symm
      have hfind : (r.entries.find? fun e => e.2.discoverable && e.2.supports method) =
          r.entries.find? fun e => e.2.discoverable && e.2.supports method' :=
        List.find?_congr fun e he => by rw [hignore e he method method' h]
      simp only [hm', hdefault, hfind]
  | some parts =>
      obtain ⟨⟨name', rest'⟩, hm', hsame⟩ := Option.map_eq_some_iff.1 ((hm ▸ hparts).symm)
      obtain ⟨name, rest⟩ := parts
      obtain ⟨hname, hrest⟩ := Prod.mk.inj hsame
      have hkey : lowercase name = lowercase name' := SameLetters.lowercase_eq hname.symm
      simp only [hm', hkey]
      cases hlookup : r.lookup? (lowercase name') with
      | none => rfl
      | some p =>
          have hp : p.IgnoresCase := hignore _ (mem_of_lookup_eq_some hlookup)
          simp only [hp rest rest' hrest.symm]

theorem sameSelection_of_find? (h : r.find? solverType method = r.find? solverType method') :
    r.SameSelection method method' := by
  cases hfind : r.find? solverType method with
  | error fault =>
      constructor
      · simp only [plugin, ← h, hfind]
        exact .error (.refl fault)
      · simp only [pluginName, ← h, hfind]
        exact .error (.refl fault)
  | ok found =>
      constructor
      · rw [plugin_of_find? hfind, plugin_of_find? (h ▸ hfind)]
        cases found with
        | none => exact .error (.methodNotFound method method')
        | some e => exact .ok e.2.value
      · rw [pluginName_of_find? hfind, pluginName_of_find? (h ▸ hfind)]
        exact .ok _

/-! ## The word for the default method -/

theorem find?_default (r : Registry α) : r.find? solverType "default" = .error .bareDefault := by
  unfold find?
  rw [splitSlash?_bare (by decide)]
  rfl

/-- Any other spelling of the word selects a plugin, if there is one for it. -/
theorem not_sameSelection_default (h : SameLetters "default" method) (hne : method ≠ "default")
    {e : String × Plugin α} (he : e ∈ r.entries) (hdiscoverable : e.2.discoverable = true)
    (hsupports : e.2.supports method = true) : ¬ r.SameSelection "default" method := by
  intro hsame
  have hslash : splitSlash? method = none := by
    have hparts := splitSlash?_of_sameLetters h
    rw [splitSlash?_bare (by decide)] at hparts
    exact Option.map_eq_none_iff.1 hparts.symm
  obtain ⟨found, hfound⟩ : ∃ found,
      (r.entries.find? fun e => e.2.discoverable && e.2.supports method) = some found := by
    refine Option.isSome_iff_exists.1 (List.find?_isSome.2 ⟨e, he, ?_⟩)
    rw [hdiscoverable, hsupports]
    rfl
  have hfind : r.find? solverType method = .ok (some found) := by
    unfold find?
    rw [hslash]
    simp [hne, checkType, hfound, bind, Except.bind, pure, Except.pure]
  have hname := hsame.pluginName
  rw [pluginName_of_find? hfind, pluginName, find?_default] at hname
  cases hname

end Registry

namespace Numeric

open Registry

variable {σ : Type} {minimizer : Minimizer} {keep : Exchange → σ → σ}

theorem ignoresCase_plugin : (plugin minimizer keep).IgnoresCase := by
  intro method method' h
  show Method.isSupported method = Method.isSupported method'
  rw [Method.isSupported, Method.isSupported, h.lowercase_eq]

theorem supports_default {method : String} (h : SameLetters "default" method) :
    (plugin minimizer keep).supports method = true := by
  rw [← ignoresCase_plugin "default" method h]
  show Method.isSupported "default" = true
  decide +kernel

/--
With the numerical backend and any other plugins that ignore case, two spellings of a method select
the same, unless one of them, and not the other, is the small word for the default method.
-/
theorem sameSelection_iff {installed : List (String × Option (Plugin (SolverProvider σ)))}
    {r₀ : Registry (SolverProvider σ)} {method method' : String}
    (hinstalled : ofInstalled installed = .ok r₀)
    (hbackend : (pluginName, some (plugin minimizer keep)) ∈ installed)
    (gs : List (Registration (SolverProvider σ)))
    (hothers : ∀ name p, IsRegistered installed (r₀.accepted gs) name p →
      lowercase name ≠ pluginName → p.IgnoresCase)
    (hletters : SameLetters method method') :
    (r₀.afterAll gs).SameSelection method method' ↔ (method = "default" ↔ method' = "default") := by
  have hunique := nodup_keys_of_installed hinstalled gs
  have horder := entries_of_installed hinstalled gs
  have hmem : (pluginName, plugin minimizer keep) ∈ (r₀.afterAll gs).entries := by
    rw [horder]
    exact mem_searchOrder.2 ⟨pluginName, .inl hbackend, by decide +kernel⟩
  have hignore : ∀ e ∈ (r₀.afterAll gs).entries, e.2.IgnoresCase := by
    rintro ⟨key, p⟩ he
    by_cases hkey : key = pluginName
    · -- names are unique, so this is the backend
      subst hkey
      have hp := ((lookup?_eq_some hunique).2 he).symm.trans ((lookup?_eq_some hunique).2 hmem)
      cases hp
      exact ignoresCase_plugin
    · rw [horder] at he
      obtain ⟨name, hname, rfl⟩ := mem_searchOrder.1 he
      exact hothers name p hname hkey
  constructor
  · intro hsame
    constructor
    · rintro rfl
      by_contra hne
      exact not_sameSelection_default hletters hne hmem rfl (supports_default hletters) hsame
    · rintro rfl
      by_contra hne
      exact not_sameSelection_default hletters.symm hne hmem rfl (supports_default hletters.symm)
        hsame.symm
  · intro hdefault
    exact sameSelection_of_find? (find?_of_sameLetters hletters hignore hdefault)

def idleBackend : Plugin (SolverProvider Unit) :=
  plugin (fun _ => .fail .nothingCached) fun _ u => u

theorem ignoresCase_offering {α : Type} (methods : List String) (discoverable : Bool) (value : α) :
    (offering methods discoverable value).IgnoresCase := by
  intro method method' h
  simp only [offering, h.lowercase_eq]

/-- A plugin that was registered later is selected by its name in any case. -/
theorem sameSelection_registered :
    let installed := [(pluginName, some idleBackend)]
    let gs := [⟨"Open", some (offering ["slsqp"] true idleBackend.value), true⟩]
    ∃ r₀ : Registry (SolverProvider Unit), ofInstalled installed = .ok r₀ ∧
      SameLetters "open/slsqp" "OPEN/Slsqp" ∧
      (r₀.afterAll gs).SameSelection "open/slsqp" "OPEN/Slsqp" := by
  intro installed gs
  obtain ⟨r₀, hr₀⟩ : ∃ r₀, ofInstalled installed = .ok r₀ := ⟨_, rfl⟩
  have hletters : SameLetters "open/slsqp" "OPEN/Slsqp" := by decide
  refine ⟨r₀, hr₀, hletters, ?_⟩
  have hothers : ∀ name p, IsRegistered installed (r₀.accepted gs) name p →
      lowercase name ≠ pluginName → p.IgnoresCase := by
    rintro name p (hname | ⟨g, hg, -, hp⟩) -
    · cases List.mem_singleton.1 hname
      exact ignoresCase_plugin
    · cases List.mem_singleton.1 ((accepted_sublist r₀ gs).mem hg)
      cases hp
      exact ignoresCase_offering _ _ _
  exact (sameSelection_iff hr₀ (List.mem_singleton_self _) gs hothers hletters).2 (by decide)

/-- With a capital, the word for the default method selects the backend. -/
theorem not_sameSelection_capital :
    ∃ r : Registry (SolverProvider Unit), ofInstalled [(pluginName, some idleBackend)] = .ok r ∧
      SameLetters "default" "Default" ∧
      r.pluginName solverType "default" = .error .bareDefault ∧
      r.pluginName solverType "Default" = .ok (some pluginName) ∧
      ¬ r.SameSelection "default" "Default" := by
  have hletters : SameLetters "default" "Default" := by decide
  refine ⟨_, rfl, hletters, rfl, ?_, ?_⟩
  · rw [pluginName_of_find? (find?_bare (by decide) (by decide))]
    exact congrArg Except.ok (by decide +kernel)
  · exact not_sameSelection_default hletters (by decide) (List.mem_singleton_self _) rfl
      (supports_default hletters)

end Numeric

end Extremum
