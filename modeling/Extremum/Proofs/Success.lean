import Mathlib

/-!
# When computations succeed

A computation of several steps succeeds exactly if every step does. The lemmas take such a
computation apart into its steps, so that definitions need not be unfolded step by step.
-/

namespace Extremum

variable {ε σ α β : Type}

theorem bind_eq_ok {x : Except ε α} {f : α → Except ε β} {b : β} :
    (x >>= f) = .ok b ↔ ∃ a, x = .ok a ∧ f a = .ok b := by
  cases x with
  | error e => simp [bind, Except.bind]
  | ok a => simp [bind, Except.bind]

theorem bind_eq_error {x : Except ε α} {f : α → Except ε β} {e : ε} :
    (x >>= f) = .error e ↔ x = .error e ∨ ∃ a, x = .ok a ∧ f a = .error e := by
  cases x with
  | error e => simp [bind, Except.bind]
  | ok a => simp [bind, Except.bind]

theorem pure_eq_ok {a b : α} : (pure a : Except ε α) = .ok b ↔ a = b := by
  simp [pure, Except.pure]

theorem error_of_bind_pure {x : Except ε α} {f : α → β} {e : ε}
    (h : (x >>= fun a => pure (f a)) = .error e) : x = .error e := by
  cases x with
  | error e' => exact congrArg _ (Except.error.inj h)
  | ok a => cases h

theorem map_eq_ok {x : Except ε α} {f : α → β} {b : β} :
    x.map f = .ok b ↔ ∃ a, x = .ok a ∧ f a = b := by
  cases x with
  | error e => simp [Except.map]
  | ok a => simp [Except.map]

theorem map_eq_error {x : Except ε α} {f : α → β} {e : ε} :
    x.map f = .error e ↔ x = .error e := by
  cases x with
  | error e' => simp [Except.map]
  | ok a => simp [Except.map]

theorem bind_pure_eq_error {x : Except ε α} {f : α → β} {e : ε} :
    (x >>= fun a => pure (f a)) = .error e ↔ x = .error e := by
  refine ⟨error_of_bind_pure, fun h => ?_⟩
  rw [h]
  rfl

theorem ok_of_isOk {x : Except ε Unit} (h : x.isOk = true) : x = .ok () := by
  cases x with
  | error e => cases h
  | ok u => rfl

theorem toOption_eq_some {x : Except ε α} {a : α} : x.toOption = some a ↔ x = .ok a := by
  cases x <;> simp [Except.toOption]

theorem toOption_map_eq_some {x : Except ε α} {f : α → β} {b : β} :
    x.toOption.map f = some b ↔ ∃ a, x = .ok a ∧ f a = b := by
  cases x <;> simp [Except.toOption]

theorem toOption_map_eq_none {x : Except ε α} {f : α → β} :
    x.toOption.map f = none ↔ ∃ e, x = .error e := by
  cases x <;> simp [Except.toOption]

theorem mapM_eq_ok {f : α → Except ε β} {as : List α} {bs : List β} :
    as.mapM f = .ok bs ↔ List.Forall₂ (fun a b => f a = .ok b) as bs := by
  induction as generalizing bs with
  | nil => rw [List.mapM_nil, pure_eq_ok, List.forall₂_nil_left_iff, eq_comm]
  | cons a as ih =>
      rw [List.mapM_cons, bind_eq_ok, List.forall₂_cons_left_iff]
      constructor
      · rintro ⟨b, hb, h⟩
        obtain ⟨bs', hbs, h⟩ := bind_eq_ok.1 h
        exact ⟨b, bs', hb, ih.1 hbs, (pure_eq_ok.1 h).symm⟩
      · rintro ⟨b, bs', hb, hbs, rfl⟩
        exact ⟨b, hb, bind_eq_ok.2 ⟨bs', ih.2 hbs, rfl⟩⟩

theorem getElem?_of_mapM {f : α → Except ε β} {as : List α} {bs : List β} {i : Nat} {a : α}
    (h : as.mapM f = .ok bs) (ha : as[i]? = some a) : ∃ b, bs[i]? = some b ∧ f a = .ok b := by
  have hmatch := List.forall₂_iff_get.1 (mapM_eq_ok.1 h)
  obtain ⟨hi, rfl⟩ := List.getElem?_eq_some_iff.1 ha
  have hi' : i < bs.length := hmatch.1 ▸ hi
  exact ⟨bs[i], List.getElem?_eq_getElem hi', hmatch.2 i hi hi'⟩

theorem exists_mapM_eq_ok {f : α → Except ε β} {as : List α} (h : ∀ a ∈ as, ∃ b, f a = .ok b) :
    ∃ bs, as.mapM f = .ok bs := by
  induction as with
  | nil => exact ⟨[], rfl⟩
  | cons a as ih =>
      obtain ⟨b, hb⟩ := h a (by simp)
      obtain ⟨bs, hbs⟩ := ih fun a' ha' => h a' (by simp [ha'])
      exact ⟨b :: bs, mapM_eq_ok.2 (.cons hb (mapM_eq_ok.1 hbs))⟩

theorem exists_result_of_mem {f : α → Except ε β} {as : List α} {bs : List β} {a : α}
    (h : as.mapM f = .ok bs) (ha : a ∈ as) : ∃ b ∈ bs, f a = .ok b := by
  induction mapM_eq_ok.1 h with
  | nil => cases ha
  | cons hb hs ih =>
      rcases List.mem_cons.1 ha with rfl | ha
      · exact ⟨_, List.mem_cons_self, hb⟩
      · obtain ⟨b, hmem, hb⟩ := ih (mapM_eq_ok.2 hs) ha
        exact ⟨b, List.mem_cons_of_mem _ hmem, hb⟩

theorem exists_source_of_mem {f : α → Except ε β} {as : List α} {bs : List β} {b : β}
    (h : as.mapM f = .ok bs) (hb : b ∈ bs) : ∃ a ∈ as, f a = .ok b := by
  induction mapM_eq_ok.1 h with
  | nil => cases hb
  | cons ha hs ih =>
      rcases List.mem_cons.1 hb with rfl | hb
      · exact ⟨_, List.mem_cons_self, ha⟩
      · obtain ⟨a, hmem, ha⟩ := ih (mapM_eq_ok.2 hs) hb
        exact ⟨a, List.mem_cons_of_mem _ hmem, ha⟩

/-- A fold fails only in one of its steps. -/
theorem exists_step_of_foldlM_error {f : β → α → Except ε β} {as : List α} {b : β} {e : ε}
    (h : as.foldlM f b = .error e) : ∃ b', ∃ a ∈ as, f b' a = .error e := by
  induction as generalizing b with
  | nil => cases h
  | cons a as ih =>
      rw [List.foldlM_cons] at h
      rcases bind_eq_error.1 h with h | ⟨b', -, h⟩
      · exact ⟨b, a, List.mem_cons_self, h⟩
      · obtain ⟨b'', a', ha', h⟩ := ih h
        exact ⟨b'', a', List.mem_cons_of_mem _ ha', h⟩

theorem exists_of_mapM_error {f : α → Except ε β} {as : List α} {e : ε}
    (h : as.mapM f = .error e) : ∃ a ∈ as, f a = .error e := by
  induction as with
  | nil => cases h
  | cons a as ih =>
      rw [List.mapM_cons] at h
      rcases bind_eq_error.1 h with h | ⟨b, -, h⟩
      · exact ⟨a, List.mem_cons_self, h⟩
      · obtain ⟨a', ha', h⟩ := ih (error_of_bind_pure h)
        exact ⟨a', List.mem_cons_of_mem _ ha', h⟩

/-- The first fault decides, when the faults of each computation are listed. -/
theorem mapM_eq_error_iff {f : α → Except ε β} {faults : α → List ε} {as : List α} {e : ε}
    (h : ∀ a ∈ as, ∀ e, f a = .error e ↔ (faults a).head? = some e) :
    as.mapM f = .error e ↔ (as.flatMap faults).head? = some e := by
  induction as with
  | nil => exact iff_of_false nofun nofun
  | cons a as ih =>
      have ha := h a List.mem_cons_self
      have ih := ih fun a' ha' => h a' (List.mem_cons_of_mem _ ha')
      rw [List.mapM_cons, List.flatMap_cons, List.head?_append]
      cases hf : f a with
      | error e' =>
          rw [(ha e').1 hf, Option.some_or, Option.some_inj]
          exact Except.error.injEq e' e ▸ Iff.rfl
      | ok b =>
          have hnone : (faults a).head? = none := by
            cases hfaults : (faults a).head? with
            | none => rfl
            | some e' => cases hf.symm.trans ((ha e').2 hfaults)
          rw [hnone, Option.none_or, ← ih]
          exact bind_pure_eq_error

theorem forM_eq_ok {f : α → Except ε Unit} {as : List α} :
    as.forM f = .ok () ↔ ∀ a ∈ as, f a = .ok () := by
  induction as with
  | nil => exact iff_of_true rfl nofun
  | cons a as ih =>
      rw [List.forall_mem_cons, ← ih]
      exact bind_eq_ok.trans Unique.exists_iff

theorem exists_of_forM_error {f : α → Except ε Unit} {as : List α} {e : ε}
    (h : as.forM f = .error e) : ∃ a ∈ as, f a = .error e := by
  induction as with
  | nil => cases h
  | cons a as ih =>
      rcases bind_eq_error.1 h with h | ⟨_, -, h⟩
      · exact ⟨a, List.mem_cons_self, h⟩
      · obtain ⟨a', ha', h⟩ := ih h
        exact ⟨a', List.mem_cons_of_mem _ ha', h⟩

/-- Two computations succeed with the same result, or both of them fail. -/
def SameSuccess (x y : Except ε α) : Prop := ∀ a, x = .ok a ↔ y = .ok a

theorem SameSuccess.refl (x : Except ε α) : SameSuccess x x := fun _ => Iff.rfl

theorem SameSuccess.bind {x y : Except ε α} {f g : α → Except ε β} (h : SameSuccess x y)
    (hfg : ∀ a, SameSuccess (f a) (g a)) : SameSuccess (x >>= f) (y >>= g) := by
  intro b
  rw [bind_eq_ok, bind_eq_ok]
  exact exists_congr fun a => and_congr (h a) (hfg a b)

theorem SameSuccess.bind_map {γ : Type} {x : Except ε α} {y : Except ε γ} {k : α → γ}
    {f : γ → Except ε β} {g : α → Except ε β} (h : SameSuccess y (x.map k))
    (hfg : ∀ a, SameSuccess (f (k a)) (g a)) : SameSuccess (y >>= f) (x >>= g) := by
  intro b
  rw [bind_eq_ok, bind_eq_ok]
  constructor
  · rintro ⟨_, hy, hb⟩
    obtain ⟨a, hx, rfl⟩ := map_eq_ok.1 ((h _).1 hy)
    exact ⟨a, hx, (hfg a b).1 hb⟩
  · rintro ⟨a, hx, hb⟩
    exact ⟨k a, (h _).2 (map_eq_ok.2 ⟨a, hx, rfl⟩), (hfg a b).2 hb⟩

theorem SameSuccess.eq {x y : Except ε α} {a b : α} (h : SameSuccess x y) (hx : x = .ok a)
    (hy : y = .ok b) : a = b :=
  Except.ok.inj (hx.symm.trans ((h b).2 hy))

theorem SameSuccess.getD {xs ys : List (Except ε α)} (h : List.Forall₂ SameSuccess xs ys) (i : Nat)
    (e : ε) : SameSuccess (xs[i]?.getD (.error e)) (ys[i]?.getD (.error e)) := by
  induction h generalizing i with
  | nil => exact .refl _
  | cons hxy _ ih =>
      cases i with
      | zero => exact hxy
      | succ i => exact ih i

/-- Lists with entries that correspond are mapped to the same lists. -/
theorem SameSuccess.mapM {γ : Type} {R : α → γ → Prop} {f : α → Except ε β} {g : γ → Except ε β}
    {as : List α} {cs : List γ} (h : List.Forall₂ R as cs)
    (hfg : ∀ a c, R a c → SameSuccess (f a) (g c)) : SameSuccess (as.mapM f) (cs.mapM g) := by
  induction h with
  | nil => exact .refl _
  | cons hac _ ih =>
      rw [List.mapM_cons, List.mapM_cons]
      exact (hfg _ _ hac).bind fun b => ih.bind fun bs => .refl _

/-! ## Lookups -/

theorem mem_of_lookup_eq_some [BEq α] [LawfulBEq α] {entries : List (α × β)} {key : α} {b : β}
    (h : entries.lookup key = some b) : (key, b) ∈ entries := by
  obtain ⟨before, later, hentries, -⟩ := List.lookup_eq_some_iff.1 h
  simp [hentries]

/-! ## Computations with a state -/

/-- What a computation results in, apart from its state. -/
def resultOf : EStateM.Result ε σ α → Except ε α
  | .ok a _ => .ok a
  | .error e _ => .error e

theorem action_bind_eq_ok {x : EStateM ε σ α} {f : α → EStateM ε σ β} {b : β} {s s' : σ} :
    (x >>= f) s = .ok b s' ↔ ∃ a s₁, x s = .ok a s₁ ∧ f a s₁ = .ok b s' := by
  show EStateM.bind x f s = _ ↔ _
  unfold EStateM.bind
  cases x s with
  | error e s₁ => simp
  | ok a s₁ =>
      constructor
      · exact fun h => ⟨a, s₁, rfl, h⟩
      · rintro ⟨_, _, h, h'⟩
        cases h
        exact h'

theorem action_bind_eq_error {x : EStateM ε σ α} {f : α → EStateM ε σ β} {e : ε} {s s' : σ} :
    (x >>= f) s = .error e s' ↔
      x s = .error e s' ∨ ∃ a s₁, x s = .ok a s₁ ∧ f a s₁ = .error e s' := by
  show EStateM.bind x f s = _ ↔ _
  unfold EStateM.bind
  cases x s with
  | error e' s₁ => simp
  | ok a s₁ =>
      constructor
      · exact fun h => .inr ⟨a, s₁, rfl, h⟩
      · rintro (h | ⟨_, _, h, h'⟩)
        · cases h
        · cases h
          exact h'

theorem action_bind_of_ok {x : EStateM ε σ α} {f : α → EStateM ε σ β} {a : α} {s s' : σ}
    (h : x s = .ok a s') : (x >>= f) s = f a s' := by
  show EStateM.bind x f s = _
  unfold EStateM.bind
  rw [h]

theorem action_bind_of_error {x : EStateM ε σ α} {f : α → EStateM ε σ β} {e : ε} {s s' : σ}
    (h : x s = .error e s') : (x >>= f) s = .error e s' := by
  show EStateM.bind x f s = _
  unfold EStateM.bind
  rw [h]

theorem resultOf_ofExcept_bind {x : Except ε α} {f : α → EStateM ε σ β} {s : σ} :
    resultOf ((MonadExcept.ofExcept x >>= f : EStateM ε σ β) s) =
      x >>= fun a => resultOf (f a s) := by
  cases x <;> rfl

/-- A step after another one, when the result of each is known. -/
theorem resultOf_bind {s : σ} {x : EStateM ε σ α} {f : α → EStateM ε σ β} {y : Except ε α}
    {g : α → Except ε β} (hx : resultOf (x s) = y)
    (hf : ∀ a s', x s = .ok a s' → resultOf (f a s') = g a) :
    resultOf ((x >>= f) s) = y >>= g := by
  subst hx
  cases h : x s with
  | error e s' =>
      rw [action_bind_of_error h]
      rfl
  | ok a s' =>
      rw [action_bind_of_ok h, hf a s' h]
      rfl

/-- Steps that keep an invariant, under which the result of each of them is known. -/
theorem resultOf_mapM {P : σ → Prop} {f : α → EStateM ε σ β} {g : α → Except ε β}
    (hresult : ∀ a s, P s → resultOf (f a s) = g a)
    (hkeep : ∀ a s b s', P s → f a s = .ok b s' → P s') (as : List α) {s : σ} (hs : P s) :
    resultOf (as.mapM f s) = as.mapM g := by
  induction as generalizing s with
  | nil => rfl
  | cons a as ih =>
      rw [List.mapM_cons, List.mapM_cons]
      refine resultOf_bind (hresult a s hs) fun b s' hb => ?_
      exact resultOf_bind (ih (hkeep a s b s' hs hb)) fun bs s'' _ => rfl

theorem ofExcept_eq_ok {x : Except ε α} {a : α} {s s' : σ} :
    (MonadExcept.ofExcept x : EStateM ε σ α) s = .ok a s' ↔ x = .ok a ∧ s' = s := by
  cases x with
  | error e => simp [MonadExcept.ofExcept, throw, throwThe, MonadExceptOf.throw, EStateM.throw]
  | ok b => simp [MonadExcept.ofExcept, pure, EStateM.pure, eq_comm]

theorem length_of_action_mapM {f : α → EStateM ε σ β} {as : List α} {bs : List β} {s s' : σ}
    (h : as.mapM f s = .ok bs s') : bs.length = as.length := by
  induction as generalizing bs s with
  | nil =>
      cases h
      rfl
  | cons a as ih =>
      rw [List.mapM_cons] at h
      obtain ⟨b, s₁, -, h⟩ := action_bind_eq_ok.1 h
      obtain ⟨bs', s₂, hbs, h⟩ := action_bind_eq_ok.1 h
      cases h
      rw [List.length_cons, List.length_cons, ih hbs]

theorem exists_of_action_mapM_error {f : α → EStateM ε σ β} {as : List α} {e : ε} {s s' : σ}
    (h : as.mapM f s = .error e s') : ∃ a ∈ as, ∃ s₁ s₂, f a s₁ = .error e s₂ := by
  induction as generalizing s with
  | nil => cases h
  | cons a as ih =>
      rw [List.mapM_cons] at h
      rcases action_bind_eq_error.1 h with h | ⟨b, s₁, -, h⟩
      · exact ⟨a, List.mem_cons_self, s, s', h⟩
      rcases action_bind_eq_error.1 h with h | ⟨bs, s₂, -, h⟩
      · obtain ⟨a', ha', h⟩ := ih h
        exact ⟨a', List.mem_cons_of_mem _ ha', h⟩
      · cases h

theorem exists_source_of_action_mapM {f : α → EStateM ε σ β} {as : List α} {bs : List β} {b : β}
    {s s' : σ} (h : as.mapM f s = .ok bs s') (hb : b ∈ bs) :
    ∃ a ∈ as, ∃ s₁ s₂, f a s₁ = .ok b s₂ := by
  induction as generalizing bs s with
  | nil =>
      cases h
      cases hb
  | cons a as ih =>
      rw [List.mapM_cons] at h
      obtain ⟨b', s₁, hb', h⟩ := action_bind_eq_ok.1 h
      obtain ⟨bs', s₂, hbs, h⟩ := action_bind_eq_ok.1 h
      cases h
      rcases List.mem_cons.1 hb with rfl | hb
      · exact ⟨a, List.mem_cons_self, s, s₁, hb'⟩
      · obtain ⟨a', ha', h⟩ := ih hbs hb
        exact ⟨a', List.mem_cons_of_mem _ ha', h⟩

end Extremum
