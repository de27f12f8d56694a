import Mathlib.Data.List.Forall2

/-!
# Steps — what a step that succeeds has done

A reading is a chain of steps, each of which may fail. A chain that succeeds
has succeeded at every step: these lemmas take it apart, one step at a time.
Where the steps hand on a state, what a chain gives is known from what each
step gives (`gives_bind`).
-/

namespace DeployLint

variable {ε ε' α β : Type}

theorem bind_eq_ok_iff {x : Except ε α} {f : α → Except ε β} {b : β} :
    x >>= f = .ok b ↔ ∃ a, x = .ok a ∧ f a = .ok b := by
  cases x with
  | error e => exact ⟨fun h => (nomatch h), fun ⟨_, h, _⟩ => (nomatch h)⟩
  | ok a => exact ⟨fun h => ⟨a, rfl, h⟩, fun ⟨_, ha, h⟩ => Except.ok.inj ha ▸ h⟩

theorem map_eq_ok_iff {x : Except ε α} {f : α → β} {b : β} :
    x.map f = .ok b ↔ ∃ a, x = .ok a ∧ f a = b := by
  cases x <;> simp [Except.map]

/-- A chain fails at its first step that does. -/
theorem bind_eq_error_iff {x : Except ε α} {f : α → Except ε β} {e : ε} :
    x >>= f = .error e ↔ x = .error e ∨ ∃ a, x = .ok a ∧ f a = .error e := by
  cases x with
  | error e' =>
    have hnone : ¬ ∃ a, (.error e' : Except ε α) = .ok a ∧ f a = .error e :=
      fun ⟨_, h, _⟩ => (nomatch h)
    rw [or_iff_left hnone]
    exact ⟨fun h => congrArg _ (Except.error.inj h), fun h => congrArg _ (Except.error.inj h)⟩
  | ok a =>
    refine ⟨fun h => .inr ⟨a, rfl, h⟩, ?_⟩
    rintro (h | ⟨b, hb, h⟩)
    · exact nomatch h
    · exact Except.ok.inj hb ▸ h

theorem map_eq_error_iff {x : Except ε α} {f : α → β} {e : ε} :
    x.map f = .error e ↔ x = .error e := by
  cases x <;> simp [Except.map]

theorem mapError_eq_ok_iff {x : Except ε α} {f : ε → ε'} {a : α} :
    x.mapError f = .ok a ↔ x = .ok a := by
  cases x <;> simp [Except.mapError]

/-- What is told of a result by a test is told of a step that succeeds. -/
theorem exists_ok_of_any {x : Except ε α} {p : α → Bool} (h : x.toOption.any p = true) :
    ∃ a, x = .ok a ∧ p a = true := by
  cases x with
  | error e => exact nomatch h
  | ok a => exact ⟨a, rfl, h⟩

/-- A step taken on every entry of a list gives one result for each, in order. -/
theorem mapM_eq_ok_iff {f : α → Except ε β} {xs : List α} {ys : List β} :
    xs.mapM f = .ok ys ↔ List.Forall₂ (fun x y => f x = .ok y) xs ys := by
  induction xs generalizing ys with
  | nil =>
    rw [List.mapM_nil, List.forall₂_nil_left_iff]
    exact ⟨fun h => (Except.ok.inj h).symm, fun h => congrArg Except.ok h.symm⟩
  | cons x xs ih =>
    rw [List.mapM_cons, List.forall₂_cons_left_iff, bind_eq_ok_iff]
    refine exists_congr fun y => ?_
    rw [bind_eq_ok_iff]
    constructor
    · rintro ⟨hx, zs, hzs, hys⟩
      exact ⟨zs, hx, ih.1 hzs, (Except.ok.inj hys).symm⟩
    · rintro ⟨zs, hx, hzs, rfl⟩
      exact ⟨hx, zs, ih.2 hzs, rfl⟩

/-- A result of such steps is that of an entry. -/
theorem exists_of_mem_mapM {f : α → Except ε β} {xs : List α} {ys : List β} {y : β}
    (h : xs.mapM f = .ok ys) (hy : y ∈ ys) : ∃ x ∈ xs, f x = .ok y := by
  have hsteps := mapM_eq_ok_iff.1 h
  induction hsteps with
  | nil => exact absurd hy List.not_mem_nil
  | cons hx hxs ih =>
    rcases List.mem_cons.1 hy with rfl | hy
    · exact ⟨_, List.mem_cons_self, hx⟩
    · obtain ⟨x, hmem, hxy⟩ := ih (mapM_eq_ok_iff.2 hxs) hy
      exact ⟨x, List.mem_cons_of_mem _ hmem, hxy⟩

/-! ## Steps that hand on a state -/

section Gives

variable {σ : Type} {P : α → Prop} {Q : β → Prop}

/-- Whatever a reading gives, if it succeeds, has a property. -/
def Gives (x : StateT σ (Except ε) α) (P : α → Prop) : Prop := ∀ s a t, x s = .ok (a, t) → P a

theorem gives_pure {a : α} (h : P a) : Gives (pure a : StateT σ (Except ε) α) P := by
  intro s b t hb
  obtain ⟨rfl, -⟩ := Prod.mk.inj (Except.ok.inj hb)
  exact h

theorem gives_throw (e : ε) : Gives (throw e : StateT σ (Except ε) α) P := by
  intro s a t h
  exact nomatch h

/-- A reading of which nothing is known. -/
theorem gives_any (x : StateT σ (Except ε) α) : Gives x fun _ => True :=
  fun _ _ _ _ => trivial

/-- What a chain gives is what its last reading gives, of what was given before. -/
theorem gives_bind {x : StateT σ (Except ε) α} {f : α → StateT σ (Except ε) β} (hx : Gives x P)
    (hf : ∀ a, P a → Gives (f a) Q) : Gives (x >>= f) Q := by
  intro s b t h
  obtain ⟨⟨a, s'⟩, ha, hb⟩ := bind_eq_ok_iff.1 h
  exact hf a (hx s a s' ha) s' b t hb

theorem gives_throw_bind (e : ε) (next : α → StateT σ (Except ε) β) :
    Gives (throw e >>= next) Q := by
  have hnone : Gives (throw e : StateT σ (Except ε) α) fun _ => False := gives_throw e
  exact gives_bind hnone fun _ h => h.elim

end Gives

end DeployLint
