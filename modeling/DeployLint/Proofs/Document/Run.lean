import DeployLint.Document.Walk

/-!
# Progress — a loop that may end early

`runAll` runs a step over a list: the state is threaded through, and the
first halt ends the loop. A run goes on over every element (`GoesOn`) or
halts at one (`runAll_eq_halt_iff`). A step can be made to write down what
it is called on (`recorded`), which changes nothing else
(`map_runAll_recorded`) and shows the calls of a run: the whole list, or its
elements up to the one that ends it.
-/

namespace DeployLint

namespace Progress

variable {σ τ α β : Type} {f : α → σ → Progress σ}

/-- The same progress with another state. -/
def map (g : σ → τ) : Progress σ → Progress τ
  | goOn s => goOn (g s)
  | halt s => halt (g s)

/-- Runs over a list, in order, until one of its elements ends the run. -/
def runAll (f : α → σ → Progress σ) : List α → σ → Progress σ
  | [], s => goOn s
  | x :: xs, s => (f x s).andThen (runAll f xs)

theorem andThen_assoc (p : Progress σ) (next last : σ → Progress σ) :
    (p.andThen next).andThen last = p.andThen fun s => (next s).andThen last := by
  cases p <;> rfl

theorem andThen_goOn (p : Progress σ) : p.andThen goOn = p := by
  cases p <;> rfl

theorem runAll_append (xs ys : List α) (s : σ) :
    runAll f (xs ++ ys) s = (runAll f xs s).andThen (runAll f ys) := by
  induction xs generalizing s with
  | nil => rfl
  | cons x xs ih =>
    rw [List.cons_append, runAll, runAll, andThen_assoc]
    exact congrArg (f x s).andThen (funext ih)

/-- Running over a list of lists is running over each in turn. -/
theorem runAll_flatMap (g : β → List α) (ys : List β) (s : σ) :
    runAll f (ys.flatMap g) s = runAll (fun y => runAll f (g y)) ys s := by
  induction ys generalizing s with
  | nil => rfl
  | cons y ys ih =>
    rw [List.flatMap_cons, runAll_append, runAll]
    exact congrArg (runAll f (g y) s).andThen (funext ih)

theorem runAll_map (g : β → α) (ys : List β) (s : σ) :
    runAll f (ys.map g) s = runAll (fun y => f (g y)) ys s := by
  induction ys generalizing s with
  | nil => rfl
  | cons y ys ih =>
    rw [List.map_cons, runAll, runAll]
    exact congrArg (f (g y) s).andThen (funext ih)

/-- Two ways to run that agree on the elements of a list agree on the list. -/
theorem runAll_congr {g : α → σ → Progress σ} {xs : List α} (h : ∀ x ∈ xs, ∀ s, f x s = g x s)
    (s : σ) : runAll f xs s = runAll g xs s := by
  induction xs generalizing s with
  | nil => rfl
  | cons x xs ih =>
    rw [runAll, runAll, h x List.mem_cons_self]
    exact congrArg (g x s).andThen (funext (ih fun y hy => h y (List.mem_cons_of_mem _ hy)))

/-- **A run whose steps all go on is a fold.** -/
theorem runAll_goOn {g : σ → α → σ} (h : ∀ x s, f x s = .goOn (g s x)) (xs : List α) (s : σ) :
    runAll f xs s = .goOn (xs.foldl g s) := by
  induction xs generalizing s with
  | nil => rfl
  | cons x xs ih =>
    rw [runAll, h]
    exact ih (g s x)

/-- **A search halts exactly when there is something to find.** -/
theorem isHalt_runAll_search (p : α → Bool) (xs : List α) (s : σ) :
    (runAll (fun x s => if p x then .halt s else .goOn s) xs s).isHalt = xs.any p := by
  induction xs with
  | nil => rfl
  | cons x xs ih =>
    rw [runAll, List.any_cons]
    cases p x with
    | true => rfl
    | false => exact ih

/-! ## How a run ends -/

/-- The run goes on over every element of a list, from one state to another. -/
inductive GoesOn (f : α → σ → Progress σ) : List α → σ → σ → Prop
  | nil (s : σ) : GoesOn f [] s s
  | cons {x : α} {xs : List α} {s t u : σ} :
      f x s = .goOn t → GoesOn f xs t u → GoesOn f (x :: xs) s u

/-- A run goes on to its end exactly when every element lets it. -/
theorem runAll_eq_goOn_iff {xs : List α} {s t : σ} :
    runAll f xs s = .goOn t ↔ GoesOn f xs s t := by
  constructor
  · intro h
    induction xs generalizing s with
    | nil =>
      obtain rfl := goOn.inj h
      exact .nil _
    | cons x xs ih =>
      rw [runAll] at h
      cases hx : f x s with
      | goOn u => exact .cons hx (ih (by rwa [hx] at h))
      | halt u => rw [hx] at h; exact nomatch h
  · intro h
    induction h with
    | nil s => rfl
    | cons hx _ ih => rw [runAll, hx]; exact ih

/-- **A run halts exactly when one element ends it**, in the state the
elements before it lead to. -/
theorem runAll_eq_halt_iff {xs : List α} {s t : σ} :
    runAll f xs s = .halt t ↔
      ∃ before x after u, xs = before ++ x :: after ∧ GoesOn f before s u ∧ f x u = .halt t := by
  constructor
  · intro h
    -- the first element ends the run, or the run on the others halts
    induction xs generalizing s with
    | nil => exact nomatch h
    | cons x xs ih =>
      rw [runAll] at h
      cases hx : f x s with
      | goOn u =>
        rw [hx] at h
        obtain ⟨before, y, after, v, rfl, hgo, hy⟩ := ih h
        exact ⟨x :: before, y, after, v, rfl, .cons hx hgo, hy⟩
      | halt u =>
        rw [hx] at h
        exact ⟨[], x, xs, s, rfl, .nil s, hx.trans h⟩
  · rintro ⟨before, x, after, u, rfl, hgo, hx⟩
    rw [runAll_append, runAll_eq_goOn_iff.2 hgo]
    change (f x u).andThen _ = _
    rw [hx]
    rfl

/-! ## Recording -/

/-- A step that also writes down the element it is called on. -/
def recorded (f : α → σ → Progress σ) (x : α) (s : σ × List α) : Progress (σ × List α) :=
  (f x s.1).map fun t => (t, s.2 ++ [x])

/-- Writing down does not change the run. -/
theorem map_runAll_recorded (xs : List α) (s : σ) (calls : List α) :
    (runAll (recorded f) xs (s, calls)).map Prod.fst = runAll f xs s := by
  induction xs generalizing s calls with
  | nil => rfl
  | cons x xs ih =>
    rw [runAll, runAll, recorded]
    cases f x s with
    | goOn t => exact ih t _
    | halt t => rfl

/-- A recorded run that goes on is called on the whole list. -/
theorem goesOn_recorded_iff {xs : List α} {s t : σ} {calls calls' : List α} :
    GoesOn (recorded f) xs (s, calls) (t, calls') ↔ calls' = calls ++ xs ∧ GoesOn f xs s t := by
  constructor
  · intro h
    -- what is written down already grows by an element at each step
    induction xs generalizing s calls with
    | nil =>
      cases h
      exact ⟨(List.append_nil _).symm, .nil _⟩
    | cons x xs ih =>
      obtain _ | ⟨hx, hrest⟩ := h
      rw [recorded] at hx
      cases hfx : f x s with
      | halt u => rw [hfx] at hx; exact nomatch hx
      | goOn u =>
        rw [hfx] at hx
        obtain rfl := goOn.inj hx
        obtain ⟨rfl, hgo⟩ := ih hrest
        exact ⟨by rw [List.append_assoc, List.singleton_append], .cons hfx hgo⟩
  · rintro ⟨rfl, h⟩
    induction h generalizing calls with
    | nil s => rw [List.append_nil]; exact .nil _
    | @cons x xs s t u hx _ ih =>
      have hrec : recorded f x (s, calls) = .goOn (t, calls ++ [x]) := by
        rw [recorded, hx]; rfl
      refine .cons hrec ?_
      have := @ih (calls ++ [x])
      rwa [List.append_assoc, List.singleton_append] at this

/-- A recorded step halts exactly when the step does, with its element
written down last. -/
theorem recorded_eq_halt_iff {x : α} {s t : σ} {calls calls' : List α} :
    recorded f x (s, calls) = .halt (t, calls') ↔
      f x s = .halt t ∧ calls' = calls ++ [x] := by
  rw [recorded]
  cases f x s with
  | goOn u => exact ⟨fun h => (nomatch h), fun h => (nomatch h.1)⟩
  | halt u =>
    constructor
    · intro h
      obtain ⟨rfl, rfl⟩ := Prod.mk.inj (halt.inj h)
      exact ⟨rfl, rfl⟩
    · rintro ⟨h, rfl⟩
      obtain rfl := halt.inj h
      rfl

/-- **What a run that goes on is called on**: everything, in order. -/
theorem runAll_recorded_eq_goOn_iff {xs : List α} {s t : σ} {calls : List α} :
    runAll (recorded f) xs (s, []) = .goOn (t, calls) ↔ calls = xs ∧ GoesOn f xs s t := by
  rw [runAll_eq_goOn_iff, goesOn_recorded_iff, List.nil_append]

/-- **What a run that halts is called on**: everything up to the element
that ends it. -/
theorem runAll_recorded_eq_halt_iff {xs : List α} {s t : σ} {calls : List α} :
    runAll (recorded f) xs (s, []) = .halt (t, calls) ↔
      ∃ before x after u, xs = before ++ x :: after ∧ calls = before ++ [x] ∧
        GoesOn f before s u ∧ f x u = .halt t := by
  rw [runAll_eq_halt_iff]
  constructor
  · rintro ⟨before, x, after, ⟨u, seen⟩, hxs, hgo, hx⟩
    obtain ⟨hseen, hgo⟩ := goesOn_recorded_iff.1 hgo
    obtain ⟨hx, hcalls⟩ := recorded_eq_halt_iff.1 hx
    exact ⟨before, x, after, u, hxs, by rw [hcalls, hseen, List.nil_append], hgo, hx⟩
  · rintro ⟨before, x, after, u, hxs, rfl, hgo, hx⟩
    exact ⟨before, x, after, (u, before), hxs, goesOn_recorded_iff.2 ⟨rfl, hgo⟩,
      recorded_eq_halt_iff.2 ⟨hx, rfl⟩⟩

/-- What a run is called on are the first elements of its list. -/
theorem calls_isPrefix (xs : List α) (s : σ) :
    (runAll (recorded f) xs (s, [])).state.2 <+: xs := by
  cases hrun : runAll (recorded f) xs (s, []) with
  | goOn t =>
    obtain ⟨hcalls, -⟩ := runAll_recorded_eq_goOn_iff.1 hrun
    exact hcalls ▸ List.prefix_rfl
  | halt t =>
    obtain ⟨before, x, after, -, rfl, hcalls, -⟩ := runAll_recorded_eq_halt_iff.1 hrun
    rw [state, hcalls]
    exact ⟨after, by rw [List.append_assoc, List.singleton_append]⟩

end Progress

end DeployLint
