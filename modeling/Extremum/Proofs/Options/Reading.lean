import Extremum.Options.Schema
import Extremum.Proofs.Value.Issue

/-!
# What options are read as

A value that is of the type of an option is read as itself. All other values that can be read are
converted. A list is never of a type: where it is read, it stands for a tuple.
-/

namespace Extremum

namespace OptionKind

mutual

/-- The raw value is of the type as it stands. -/
def admits : OptionKind → Value → Bool
  | boolean, .bool _ | integer, .int _ | real, .float _ | text, .text _ => true
  | choice values, v => values.any (sameScalar v)
  | anyOf members, v => anyAdmits members v
  | _, _ => false

def anyAdmits : List OptionKind → Value → Bool
  | [], _ => false
  | t :: rest, v => admits t v || anyAdmits rest v

end

def isText : Value → Bool
  | .text _ => true
  | _ => false

mutual

/-- All choices in the type are among texts. -/
def isPlain : OptionKind → Bool
  | choice values => values.all isText
  | anyOf members => allPlain members
  | _ => true

def allPlain : List OptionKind → Bool
  | [] => true
  | t :: rest => isPlain t && allPlain rest

end

/-- The raw value was converted to something else. What a list is converted to is a tuple. -/
structure Converted (v w : Value) (e : Exactness) : Prop where
  inexact : e ≠ .exact
  isList : w = v → ∃ items, v = .list items

/-- A reading of a raw value, by whether the value is admitted as it stands. -/
structure IsReading (v : Value) (admitted : Bool) (r : Reading) : Prop where
  kept : admitted = true → r = .ok (v, .exact)
  converted : admitted = false → ∀ w e, r = .ok (w, e) → Converted v w e

variable {v w : Value} {r : Reading}

/-! ## Scalars -/

theorem asBool_eq_exact {b : Bool} : v.asBool = .ok (b, .exact) ↔ v = .bool b := by
  cases v with
  | bool c => simp [Value.asBool]
  | text s =>
      simp only [Value.asBool]
      split <;> simp
  | int n =>
      simp only [Value.asBool, Value.boolOfInt]
      split_ifs <;> simp
  | float x =>
      simp only [Value.asBool, Value.boolOfInt]
      split
      · split_ifs <;> simp
      · simp
  | _ => simp [Value.asBool]

theorem asInt_eq_exact {n : Int} : v.asInt = .ok (n, .exact) ↔ v = .int n := by
  cases v <;> simp [Value.asInt, map_eq_ok]

theorem asFloat_eq_exact {x : Float} : v.asFloat = .ok (x, .exact) ↔ v = .float x := by
  cases v with
  | int n =>
      simp only [Value.asFloat]
      split_ifs <;> simp
  | text s =>
      simp only [Value.asFloat]
      split <;> simp
  | _ => simp [Value.asFloat]

theorem asText_eq_exact {s : String} : v.asText = .ok (s, .exact) ↔ v = .text s := by
  cases v <;> simp [Value.asText]

theorem isReading_ofMatch {α : Type} {wrap : α → Value} {m : Match α} {admitted : Bool}
    (hexact : ∀ a, m = .ok (a, .exact) ↔ v = wrap a)
    (hadmitted : admitted = true ↔ ∃ a, v = wrap a) : IsReading v admitted (ofMatch wrap m) := by
  constructor
  · intro h
    obtain ⟨a, rfl⟩ := hadmitted.1 h
    rw [(hexact a).2 rfl]
    rfl
  · intro h w e hr
    have hnot : ∀ a, v ≠ wrap a := fun a hv => by
      rw [hadmitted.2 ⟨a, hv⟩] at h
      cases h
    obtain ⟨⟨a, e'⟩, hm, heq⟩ := map_eq_ok.1 (Checked.ofDefect_eq_ok.1 hr)
    cases heq
    constructor
    · rintro rfl
      exact hnot a ((hexact a).1 hm)
    · intro hw
      exact absurd hw.symm (hnot a)

theorem isReading_boolean (v : Value) : IsReading v (admits boolean v) (read boolean v) := by
  rw [read]
  refine isReading_ofMatch (fun b => asBool_eq_exact) ?_
  cases v <;> simp [admits]

theorem isReading_integer (v : Value) : IsReading v (admits integer v) (read integer v) := by
  rw [read]
  refine isReading_ofMatch (fun n => asInt_eq_exact) ?_
  cases v <;> simp [admits]

theorem isReading_real (v : Value) : IsReading v (admits real v) (read real v) := by
  rw [read]
  refine isReading_ofMatch (fun x => asFloat_eq_exact) ?_
  cases v <;> simp [admits]

theorem isReading_text (v : Value) : IsReading v (admits text v) (read text v) := by
  rw [read]
  refine isReading_ofMatch (fun s => asText_eq_exact) ?_
  cases v <;> simp [admits]

/-! ## Choices -/

theorem sameScalar_text {s : String} : sameScalar v (.text s) = true ↔ v = .text s := by
  cases v <;> simp [sameScalar]

theorem agrees_text {s : String} : Value.agrees (.text s) v = true ↔ v = .text s := by
  cases v <;> simp [Value.agrees, Value.agreesAsNumber, Value.asExactInt?, @eq_comm _ s]

theorem exists_text_of_mem {values : List Value} (hplain : values.all isText = true)
    (hw : w ∈ values) : ∃ s, w = .text s := by
  have htext := List.all_eq_true.1 hplain w hw
  cases w with
  | text s => exact ⟨s, rfl⟩
  | _ => cases htext

/-- Among texts, a text is chosen only if it is one of them. -/
theorem chosen?_texts {values : List Value} (hplain : values.all isText = true) (v : Value) :
    chosen? values v = if values.any (sameScalar v) then some v else none := by
  have hother : (values.find? fun w => !w.isDiscrete && w.agrees v) = none := by
    rw [List.find?_eq_none]
    intro w hw
    obtain ⟨s, rfl⟩ := exists_text_of_mem hplain hw
    simp [Value.isDiscrete]
  unfold chosen?
  simp only [hother, Option.none_or]
  cases hexact : values.find? (sameScalar v) with
  | some w =>
      have hsame := List.find?_some hexact
      have hmem := List.mem_of_find?_eq_some hexact
      obtain ⟨s, rfl⟩ := exists_text_of_mem hplain hmem
      rw [if_pos (List.any_eq_true.2 ⟨_, hmem, hsame⟩), sameScalar_text.1 hsame]
      rfl
  | none =>
      have hnone := List.find?_eq_none.1 hexact
      rw [if_neg (by simpa using hnone), Option.none_or, List.find?_eq_none]
      intro w hw hagrees
      have hmem := List.mem_reverse.1 hw
      obtain ⟨s, rfl⟩ := exists_text_of_mem hplain hmem
      have hv := agrees_text.1 (Bool.and_eq_true _ _ ▸ hagrees).2
      exact hnone _ hmem (sameScalar_text.2 hv)

theorem isReading_choice {values : List Value} (hplain : values.all isText = true) (v : Value) :
    IsReading v (admits (choice values) v) (read (choice values) v) := by
  rw [read, chosen?_texts hplain, admits]
  cases values.any (sameScalar v) with
  | true => exact ⟨fun _ => rfl, nofun⟩
  | false => exact ⟨nofun, nofun⟩

/-! ## All types -/

/-- No list is a tuple, but a list of the right items is converted to one. -/
theorem isReading_tuple (members : List OptionKind) (v : Value) :
    IsReading v (admits (tuple members) v) (read (tuple members) v) := by
  have hadmits : admits (tuple members) v = false := by cases v <;> rfl
  rw [hadmits]
  refine ⟨nofun, fun _ w e h => ?_⟩
  cases v with
  | list items =>
      rw [read] at h
      dsimp only at h
      split at h
      · cases h
      · obtain ⟨vs, -, heq⟩ := map_eq_ok.1 h
        cases heq
        exact ⟨by simp, fun _ => ⟨items, rfl⟩⟩
  | _ => cases h

mutual

theorem isReading (v : Value) :
    (t : OptionKind) → isPlain t = true → IsReading v (admits t v) (read t v)
  | boolean, _ => isReading_boolean v
  | integer, _ => isReading_integer v
  | real, _ => isReading_real v
  | text, _ => isReading_text v
  | choice values, h => isReading_choice h v
  | tuple members, _ => isReading_tuple members v
  | anyOf members, h => by
      rw [read, admits]
      exact isReading_best v members h none [] nofun

/-- As long as all that was read is converted, a member that admits the value is still to come. -/
theorem isReading_best (v : Value) : (types : List OptionKind) → allPlain types = true →
    ∀ (best : Option (Value × Exactness)) (failures : List Issue),
      (∀ w e, best = some (w, e) → Converted v w e) →
        IsReading v (anyAdmits types v) (readBest best failures types v)
  | [], _, best, failures, hbest => by
      refine ⟨nofun, fun _ w e h => ?_⟩
      cases best with
      | none =>
          simp only [readBest] at h
          cases h
      | some b =>
          simp only [readBest] at h
          cases h
          exact hbest w e rfl
  | t :: types, h, best, failures, hbest => by
      obtain ⟨ht, htypes⟩ := Bool.and_eq_true_iff.1 h
      have hfirst := isReading v t ht
      have hrest := isReading_best v types htypes
      rw [anyAdmits]
      cases hadmits : admits t v with
      | true =>
          have hread : readBest best failures (t :: types) v = .ok (v, .exact) := by
            simp only [readBest, hfirst.kept hadmits]
          rw [hread]
          exact ⟨fun _ => rfl, nofun⟩
      | false =>
          rw [Bool.false_or]
          cases hr : read t v with
          | error issues =>
              simp only [readBest, hr]
              exact hrest best _ hbest
          | ok found =>
              obtain ⟨w, e⟩ := found
              have hconverted := hfirst.converted hadmits w e hr
              -- the better of two converted values is a converted value
              cases e with
              | exact => exact absurd rfl hconverted.inexact
              | lax | strict =>
                  simp only [readBest, hr]
                  split
                  · refine hrest _ _ fun w' e' hb => ?_
                    split at hb
                    · cases hb
                      exact hconverted
                    · exact hbest w' e' hb
                  · refine hrest _ _ fun w' e' hb => ?_
                    cases hb
                    exact hconverted

end

mutual

theorem admits_list (items : List Value) : (t : OptionKind) → admits t (.list items) = false
  | boolean | integer | real | text | tuple _ => rfl
  | choice values => by
      rw [admits, List.any_eq_false]
      intro w _
      simp [sameScalar]
  | anyOf members => by
      rw [admits]
      exact anyAdmits_list items members

theorem anyAdmits_list (items : List Value) :
    (types : List OptionKind) → anyAdmits types (.list items) = false
  | [] => rfl
  | t :: types => by rw [anyAdmits, admits_list items t, anyAdmits_list items types, Bool.false_or]

end

/-! ## Options -/

/-- A raw value is the value that it is read as. What a list is read as is a tuple. -/
structure IsKept (v w : Value) : Prop where
  same : w = v
  notList : ∀ items, v ≠ .list items

/-- The values that are not converted are null and those of the type of the option. -/
theorem isKept_iff {t : OptionKind} (ht : isPlain t = true) (h : t.readOptional v = .ok w) :
    IsKept v w ↔ v = .null ∨ t.admits v = true := by
  by_cases hnull : v = .null
  · subst hnull
    cases h
    simp only [true_or, iff_true]
    exact ⟨rfl, nofun⟩
  · have hread : (t.read v).map (·.1) = .ok w := by
      cases v with
      | null => exact absurd rfl hnull
      | _ => exact h
    obtain ⟨⟨w', e⟩, hr, rfl⟩ := map_eq_ok.1 hread
    simp only [hnull, false_or]
    constructor
    · intro hkept
      by_contra hadmits
      have hconverted := (isReading v t ht).converted (Bool.eq_false_of_not_eq_true hadmits) _ _ hr
      obtain ⟨items, hitems⟩ := hconverted.isList hkept.same
      exact hkept.notList items hitems
    · intro hadmits
      cases ((isReading v t ht).kept hadmits).symm.trans hr
      refine ⟨rfl, ?_⟩
      rintro items rfl
      rw [admits_list] at hadmits
      cases hadmits

end OptionKind

namespace MethodSchema

variable {m : MethodSchema} {options known : Entries} {name : String} {v : Value}

theorem lookup_of_all {α β : Type} (read : String → α → Checked β) {items : List (String × α)}
    {results : List (String × β)} {a : α}
    (h : Checked.all (items.map fun (name, a) => (read name a).map (name, ·)) = .ok results)
    (ha : items.lookup name = some a) :
    ∃ b, results.lookup name = some b ∧ read name a = .ok b := by
  induction items generalizing results with
  | nil => cases ha
  | cons item items ih =>
      obtain ⟨name', a'⟩ := item
      obtain ⟨first, rest, hfirst, hrest, rfl⟩ := Checked.all_cons_eq_ok.1 h
      obtain ⟨b, hb, rfl⟩ := map_eq_ok.1 hfirst
      by_cases hname : name = name'
      · subst hname
        simp only [List.lookup_cons, beq_self_eq_true, Option.some.injEq] at ha ⊢
        subst ha
        exact ⟨b, rfl, hb⟩
      · simp only [List.lookup_cons, beq_false_of_ne hname] at ha ⊢
        exact ih hrest ha

/-- An option that is read has a type in the schema, and is read as a value of the type. -/
theorem lookup_of_readOptions (h : m.readOptions (.dict options) = .ok known)
    (hv : options.lookup name = some v) :
    ∃ t w, m.settable.lookup name = some t ∧ known.lookup name = some w ∧
      t.readOptional v = .ok w := by
  obtain ⟨entries, hentries, h⟩ := bind_eq_ok.1 h
  cases hentries
  obtain ⟨known', hknown, h⟩ := bind_eq_ok.1 h
  split at h
  · rename_i hunknown
    cases h
    have hsettable : m.settable.any (·.1 = name) = true := by
      by_contra hnot
      exact List.filter_eq_nil_iff.1 hunknown (name, v) (mem_of_lookup_eq_some hv)
        (decide_eq_true hnot)
    obtain ⟨t, ht⟩ : ∃ t, m.settable.lookup name = some t := by
      rw [← Option.isSome_iff_exists, List.lookup_isSome_iff]
      obtain ⟨e, he, hname⟩ := List.any_eq_true.1 hsettable
      exact ⟨e, he, beq_iff_eq.2 (of_decide_eq_true hname).symm⟩
    obtain ⟨w, hw, hread⟩ :=
      lookup_of_all (fun name t => options.withDefault name .null t.readOptional) hknown ht
    refine ⟨t, w, ht, hw, ?_⟩
    rw [Entries.withDefault, hv] at hread
    exact Checked.within_eq_ok.1 hread
  · cases h

end MethodSchema

end Extremum
