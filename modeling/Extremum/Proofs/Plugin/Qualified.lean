import Extremum.Proofs.Plugin.Registration
import Extremum.Proofs.Text.Parts

/-!
# Qualified methods

A method that is qualified with the name of a plugin is read up to its first slash for the name. So
it selects the plugin of that name if and only if there is no slash in the name; else the name is
cut at its first slash, and what follows goes to the method. Names with slashes are accepted all the
same when plugins are registered.
-/

namespace Extremum.Registry

open Text

variable {α : Type} {installed : List (String × Option (Plugin α))} {r r₀ : Registry α}
  {p : Plugin α} {name method : String}

/-- A method qualified with a name. -/
def qualified (name method : String) : String := name ++ "/" ++ method

/-! ## The first slash -/

theorem qualified_qualified (first rest method : String) :
    qualified (qualified first rest) method = qualified first (qualified rest method) := by
  simp [qualified, String.append_assoc]

theorem exists_first_of_slash (h : '/' ∈ name.toList) :
    ∃ first rest, '/' ∉ first.toList ∧ name = qualified first rest := by
  obtain ⟨cs, ds, hname, hcs⟩ := List.eq_append_cons_of_mem h
  refine ⟨String.ofList cs, String.ofList ds, by simpa using hcs, ?_⟩
  apply String.toList_injective
  simp [qualified, hname]

theorem lowercase_qualified (name method : String) :
    lowercase (qualified name method) = qualified (lowercase name) (lowercase method) :=
  lowercase_append_slash name method

/-! ## Selection by name -/

/-- With its name cut at the first slash, a qualified method selects a value. -/
def IsFoundAsPart (r : Registry α) (name method : String) (a : α) : Prop :=
  ∃ first rest q, '/' ∉ first.toList ∧ name = qualified first rest ∧
    r.lookup? (lowercase first) = some q ∧ q.supports (qualified rest method) = true ∧ q.value = a

/-- How a plugin is reached by a method that is qualified with its name. -/
structure ReachedBy (r : Registry α) (name method : String) (p : Plugin α) : Prop where
  /-- It is selected under its own name exactly if the name has no slash. -/
  found : r.find? solverType (qualified name method) = .ok (some (lowercase name, p)) ↔
    '/' ∉ name.toList
  /-- Else it is selected only if it goes by a part of the name, too. -/
  plugin : r.plugin solverType (qualified name method) = .ok p.value ↔
    '/' ∉ name.toList ∨ r.IsFoundAsPart name method p.value

theorem find?_of_lookup? (h : '/' ∉ name.toList) (hp : r.lookup? (lowercase name) = some p)
    (hs : p.supports method = true) :
    r.find? solverType (qualified name method) = .ok (some (lowercase name, p)) := by
  rw [qualified, find?_qualified h, hp]
  simp [Option.filter, hs]

theorem plugin_qualified_iff (h : '/' ∉ name.toList) (a : α) :
    r.plugin solverType (qualified name method) = .ok a ↔
      ∃ q, r.lookup? (lowercase name) = some q ∧ q.supports method = true ∧ q.value = a := by
  rw [qualified, plugin_of_find? (find?_qualified h method)]
  cases hq : r.lookup? (lowercase name) with
  | none => simp
  | some q => cases hs : q.supports method <;> simp [Option.filter, hs]

theorem find?_ne_of_slash (h : '/' ∈ name.toList) :
    r.find? solverType (qualified name method) ≠ .ok (some (lowercase name, p)) := by
  obtain ⟨first, rest, hfirst, rfl⟩ := exists_first_of_slash h
  intro hfound
  rw [qualified_qualified, qualified, find?_qualified hfirst] at hfound
  -- the name of what is found comes from before the slash
  obtain ⟨q, -, hq⟩ := Option.map_eq_some_iff.1 (Except.ok.inj hfound)
  have hkey : lowercase first = lowercase (qualified first rest) := congrArg Prod.fst hq
  have hnot : '/' ∉ (lowercase first).toList := fun hmem => hfirst (slash_mem_lowercase.1 hmem)
  rw [hkey] at hnot
  exact hnot (slash_mem_lowercase.2 h)

theorem plugin_qualified_of_slash (h : '/' ∈ name.toList) (a : α) :
    r.plugin solverType (qualified name method) = .ok a ↔ r.IsFoundAsPart name method a := by
  constructor
  · intro hplugin
    obtain ⟨first, rest, hfirst, rfl⟩ := exists_first_of_slash h
    rw [qualified_qualified, plugin_qualified_iff hfirst] at hplugin
    obtain ⟨q, hq, hsupports, hvalue⟩ := hplugin
    exact ⟨first, rest, q, hfirst, rfl, hq, hsupports, hvalue⟩
  · rintro ⟨first, rest, q, hfirst, rfl, hq, hsupports, hvalue⟩
    rw [qualified_qualified, plugin_qualified_iff hfirst]
    exact ⟨q, hq, hsupports, hvalue⟩

theorem reachedBy_of_lookup? (hp : r.lookup? (lowercase name) = some p)
    (hs : p.supports method = true) : r.ReachedBy name method p := by
  by_cases hslash : '/' ∈ name.toList
  · refine ⟨iff_of_false (find?_ne_of_slash hslash) (not_not_intro hslash), ?_⟩
    rw [or_iff_right (not_not_intro hslash)]
    exact plugin_qualified_of_slash hslash _
  · exact ⟨iff_of_true (find?_of_lookup? hslash hp hs) hslash,
      iff_of_true ((plugin_qualified_iff hslash _).2 ⟨p, hp, hs, rfl⟩) (.inl hslash)⟩

theorem exists_of_pluginName (hslash : '/' ∉ method.toList)
    (h : r.pluginName solverType method = .ok (some name)) : ∃ p, (name, p) ∈ r.entries ∧
      p.supports method = true ∧ r.plugin solverType method = .ok p.value := by
  by_cases hdefault : method = "default"
  · subst hdefault
    rw [pluginName, find?, splitSlash?_bare hslash] at h
    cases h
  · have hfind := find?_bare (r := r) hslash hdefault
    rw [pluginName_of_find? hfind] at h
    obtain ⟨e, he, rfl⟩ := Option.map_eq_some_iff.1 (Except.ok.inj h)
    have hsupports := List.find?_some he
    rw [Bool.and_eq_true] at hsupports
    refine ⟨e.2, List.mem_of_find?_eq_some he, hsupports.2, ?_⟩
    rw [plugin_of_find? hfind, he]
    rfl

/--
After any run of registrations, every plugin is reached by the methods that it supports, qualified
with the name that it was registered under, or with the name that the search gives for a method,
unless there is a slash in the name.
-/
theorem reachedBy_qualified (h : ofInstalled installed = .ok r₀) (gs : List (Registration α)) :
    (∀ name p method, IsRegistered installed (r₀.accepted gs) name p → p.supports method = true →
      (r₀.afterAll gs).ReachedBy name method p) ∧
    ∀ method name, '/' ∉ method.toList →
      (r₀.afterAll gs).pluginName solverType method = .ok (some name) →
        ∃ p, (r₀.afterAll gs).plugin solverType method = .ok p.value ∧
          (r₀.afterAll gs).ReachedBy name method p := by
  have hkeys := nodup_keys_of_installed h gs
  have horder := entries_of_installed h gs
  constructor
  · intro name p method hname hs
    have hmem : (lowercase name, p) ∈ (r₀.afterAll gs).entries := by
      rw [horder]
      exact mem_searchOrder.2 ⟨name, hname, rfl⟩
    exact reachedBy_of_lookup? ((lookup?_eq_some hkeys).2 hmem) hs
  · intro method name hslash hname
    obtain ⟨p, hmem, hs, hplugin⟩ := exists_of_pluginName hslash hname
    refine ⟨p, hplugin, reachedBy_of_lookup? ?_ hs⟩
    -- names are kept in lower case, and looked up in lower case again
    have hlower : lowercase name = name := by
      rw [horder] at hmem
      obtain ⟨name', -, rfl⟩ := mem_searchOrder.1 hmem
      exact lowercase_lowercase name'
    rw [hlower]
    exact (lookup?_eq_some hkeys).2 hmem

/-- The last letter of the name has another lower-case form there than elsewhere. -/
theorem reachedBy_capitals :
    let installed := [("scipy", some (offering ["slsqp"] true 0))]
    let gs := [⟨"ΟΔΟΣ", some (offering ["slsqp"] true 1), true⟩]
    ∃ r₀ : Registry Nat, ofInstalled installed = .ok r₀ ∧
      (r₀.afterAll gs).plugin solverType (qualified "ΟΔΟΣ" "Slsqp") = .ok 1 ∧
      (r₀.afterAll gs).pluginName solverType "slsqp" = .ok (some "οδος") ∧
      (r₀.afterAll gs).plugin solverType (qualified "οδος" "slsqp") =
        (r₀.afterAll gs).plugin solverType "slsqp" := by
  intro installed gs
  obtain ⟨r₀, hr₀⟩ : ∃ r₀, ofInstalled installed = .ok r₀ := ⟨_, rfl⟩
  obtain ⟨hregistered, hsearched⟩ := reachedBy_qualified hr₀ gs
  have hname : (r₀.afterAll gs).pluginName solverType "slsqp" = .ok (some "οδος") := by
    cases hr₀
    exact congrArg Except.ok (by decide +kernel)
  have hmem : IsRegistered installed (r₀.accepted gs) "ΟΔΟΣ" (offering ["slsqp"] true 1) := by
    have hnew : Registration.key ⟨"ΟΔΟΣ", some (offering ["slsqp"] true 1), true⟩ ∉ r₀.keys := by
      cases hr₀
      decide +kernel
    simp only [gs, accepted, register_eq_ok.2 ⟨_, rfl, hnew, rfl⟩]
    exact .inr ⟨_, List.mem_singleton_self _, rfl, rfl⟩
  have hcapitals := hregistered _ _ "Slsqp" hmem (by decide +kernel)
  obtain ⟨p, hplugin, hfound⟩ := hsearched "slsqp" "οδος" (by decide) hname
  refine ⟨r₀, hr₀, hcapitals.plugin.2 (.inl (by decide)), hname, ?_⟩
  rw [hplugin]
  exact hfound.plugin.2 (.inl (by decide))

/-- A plugin is registered and found by the search, but not by its name, which has a slash. -/
theorem not_reached_slashed :
    let installed := [("scipy", some (offering ["slsqp"] true 0))]
    let gs := [⟨"team/open", some (offering ["slsqp"] true 1), true⟩]
    ∃ r₀ : Registry Nat, ofInstalled installed = .ok r₀ ∧
      (r₀.afterAll gs).pluginName solverType "slsqp" = .ok (some "team/open") ∧
      (r₀.afterAll gs).plugin solverType "slsqp" = .ok 1 ∧
      (r₀.afterAll gs).plugin solverType "team/open/slsqp" =
        .error (.methodNotFound "team/open/slsqp") := by
  have hslash : '/' ∉ "slsqp".toList := by decide
  have hdefault : "slsqp" ≠ "default" := by decide
  refine ⟨_, rfl, ?_, ?_, ?_⟩
  · rw [pluginName_of_find? (find?_bare hslash hdefault)]
    exact congrArg Except.ok (by decide +kernel)
  · rw [plugin_of_find? (find?_bare hslash hdefault)]
    rfl
  · rfl

end Extremum.Registry
