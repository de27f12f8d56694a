import DeployLint.Finding

/-!
# Findings — what is asked for

A check asks for several things, and each of them, where it is not kept, has
its own finding. Said apart from the check, this is a list of demands: a
condition and a finding each, in the order in which they are asked. A check
that reports all that is broken reports nothing exactly where all is kept
(`broken_eq_nil_iff`), and asking for more never takes a finding away
(`broken_sublist`). A check that stops at the first reports the first finding
of the list (`head?_broken_eq_some_iff`).
-/

namespace DeployLint

/-- What is asked for, and what is found where it is not kept. -/
structure Demand where
  finding : Finding
  Kept : Prop
  [decidable : Decidable Kept]

namespace Demand

attribute [instance] Demand.decidable

variable {ds more : List Demand} {f : Finding}

/-- Something asked for at a path, where it is an error not to keep it. -/
def error (subject : Subject) (code : String) (path : Path) (message : String) (Kept : Prop)
    [Decidable Kept] : Demand where
  finding := { code, severity := .error, subject, path := some path.text, message }
  Kept := Kept

/-- The findings on all that is not kept, in the order in which it is asked. -/
def broken (ds : List Demand) : List Finding :=
  (ds.filter fun d => ¬ d.Kept).map finding

/-! ## Lists of demands -/

theorem broken_append (ds more : List Demand) : broken (ds ++ more) = broken ds ++ broken more := by
  rw [broken, List.filter_append, List.map_append]
  rfl

theorem broken_singleton (d : Demand) : broken [d] = if d.Kept then [] else [d.finding] := by
  by_cases h : d.Kept
  · rw [if_pos h, broken, List.filter_cons_of_neg (by simpa using h)]
    rfl
  · rw [if_neg h, broken, List.filter_cons_of_pos (by simpa using h)]
    rfl

theorem broken_cons (d : Demand) (ds : List Demand) :
    broken (d :: ds) = (if d.Kept then [] else [d.finding]) ++ broken ds := by
  rw [← broken_singleton, ← broken_append]
  rfl

theorem broken_flatMap {α : Type} (xs : List α) (g : α → List Demand) :
    broken (xs.flatMap g) = xs.flatMap fun x => broken (g x) := by
  induction xs with
  | nil => rfl
  | cons x xs ih => rw [List.flatMap_cons, broken_append, ih, List.flatMap_cons]

/-- One demand of each item: the items that do not keep it, each with its finding. -/
theorem broken_map {α : Type} (xs : List α) (g : α → Demand) :
    broken (xs.map g) = (xs.filter fun x => ¬ (g x).Kept).map fun x => (g x).finding := by
  rw [broken, List.filter_map, List.map_map]
  rfl

section Errors

variable {α : Type} {subject : Subject} {code : String} {path : Path} {message : String}
variable {Kept : Prop} [Decidable Kept]

theorem broken_error : broken [error subject code path message Kept] =
    if Kept then [] else [{ code, severity := .error, subject, path := some path.text, message }] :=
  broken_singleton _

theorem broken_error_cons : broken (error subject code path message Kept :: ds) =
    (if Kept then []
      else [{ code, severity := .error, subject, path := some path.text, message }]) ++
      broken ds :=
  broken_cons _ ds

/-- What is found first, looked for from the front. -/
theorem head?_broken_error_cons : (broken (error subject code path message Kept :: ds)).head? =
    if Kept then (broken ds).head?
    else some { code, severity := .error, subject, path := some path.text, message } := by
  rw [broken_error_cons]
  split
  · rw [List.nil_append]
  · rfl

theorem broken_map_error {paths : α → Path} {messages : α → String} {Keeps : α → Prop}
    [DecidablePred Keeps] (xs : List α) :
    broken (xs.map fun x => error subject code (paths x) (messages x) (Keeps x)) =
      (xs.filter fun x => ¬ Keeps x).map fun x =>
        { code, severity := .error, subject, path := some (paths x).text, message := messages x } :=
  broken_map xs _

/-- The same for a condition that is computed. -/
theorem broken_map_error_bool {paths : α → Path} {messages : α → String} (keeps : α → Bool)
    (xs : List α) :
    broken (xs.map fun x => error subject code (paths x) (messages x) (keeps x = true)) =
      (xs.filter fun x => !keeps x).map fun x =>
        { code, severity := .error, subject, path := some (paths x).text,
          message := messages x } := by
  have hkeeps : (fun x => decide ¬ keeps x = true) = fun x => !keeps x :=
    funext fun x => by rw [decide_not, Bool.decide_eq_true]
  rw [broken_map_error, hkeeps]

end Errors

/-! ## What is reported -/

/-- **Nothing is reported exactly where all is kept.** -/
theorem broken_eq_nil_iff : broken ds = [] ↔ ∀ d ∈ ds, d.Kept := by
  rw [broken, List.map_eq_nil_iff, List.filter_eq_nil_iff]
  simp only [decide_not, Bool.not_eq_true', decide_eq_false_iff_not, Decidable.not_not]

/-- What is reported is the finding of something that is not kept. -/
theorem mem_broken_iff : f ∈ broken ds ↔ ∃ d ∈ ds, ¬ d.Kept ∧ d.finding = f := by
  rw [broken, List.mem_map]
  simp only [List.mem_filter, decide_eq_true_eq, and_assoc]

/-- **Asking for more takes no finding away.** -/
theorem broken_sublist (h : ds.Sublist more) : (broken ds).Sublist (broken more) :=
  (h.filter _).map finding

/-- **The first finding** is that of the first thing that is not kept. -/
theorem head?_broken_eq_some_iff :
    (broken ds).head? = some f ↔ ∃ before d after, ds = before ++ d :: after ∧
      (∀ e ∈ before, e.Kept) ∧ ¬ d.Kept ∧ d.finding = f := by
  rw [broken, List.head?_map, List.head?_filter, Option.map_eq_some_iff]
  simp only [List.find?_eq_some_iff_append, decide_not, Bool.not_not, Bool.not_eq_true',
    decide_eq_true_eq, decide_eq_false_iff_not]
  constructor
  · rintro ⟨d, ⟨hd, before, after, rfl, hbefore⟩, rfl⟩
    exact ⟨before, d, after, rfl, hbefore, hd, rfl⟩
  · rintro ⟨before, d, after, rfl, hbefore, hd, rfl⟩
    exact ⟨d, ⟨hd, before, after, rfl, hbefore⟩, rfl⟩

end Demand

end DeployLint
