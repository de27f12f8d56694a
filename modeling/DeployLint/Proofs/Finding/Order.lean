import Mathlib.Data.List.Pairwise
import DeployLint.Finding

/-!
# Findings — the order of a pass

A pass takes the parts of a text or of a stream in order, and what it finds on
a part carries the number of that part, if it carries any. So the numbers
never decrease along what a pass finds (`ascends_flatMap`), however many
findings there are on a part.
-/

namespace DeployLint

namespace Finding

variable {ν : Type} [LE ν] {number? : Finding → Option ν} {fs gs : List Finding}

/-- Of two findings that have a number, the later one's is not smaller. -/
def Ascends (number? : Finding → Option ν) (fs : List Finding) : Prop :=
  fs.Pairwise fun f g => ∀ m ∈ number? f, ∀ n ∈ number? g, m ≤ n

variable [Std.IsPreorder ν]

/-- **What is found on parts in order ascends**, where all that is found on a
part has the part's number or none. -/
theorem ascends_flatMap {α : Type} {xs : List α} {number : α → ν} {give : α → List Finding}
    (hxs : xs.Pairwise fun x y => number x ≤ number y)
    (hgive : ∀ x, ∀ f ∈ give x, ∀ n ∈ number? f, number x = n) :
    Ascends number? (xs.flatMap give) := by
  refine List.pairwise_flatMap.2 ⟨fun x _ => ?_, hxs.imp ?_⟩
  · refine List.pairwise_of_forall_mem_list fun f hf g hg m hm n hn => ?_
    exact (hgive x f hf m hm).symm.trans (hgive x g hg n hn) ▸ Std.IsPreorder.le_refl m
  · intro x y hle f hf g hg m hm n hn
    rwa [hgive x f hf m hm, hgive y g hg n hn] at hle

/-- Findings that have one number ascend with those behind them that do not
have a smaller one. -/
theorem Ascends.append_of_eq {k : ν} (hfs : ∀ f ∈ fs, ∀ m ∈ number? f, m = k)
    (hgs : Ascends number? gs) (hle : ∀ g ∈ gs, ∀ n ∈ number? g, k ≤ n) :
    Ascends number? (fs ++ gs) := by
  refine List.pairwise_append.2 ⟨?_, hgs, fun f hf g hg m hm n hn => ?_⟩
  · exact List.pairwise_of_forall_mem_list fun f hf g hg m hm n hn =>
      (hfs f hf m hm).trans (hfs g hg n hn).symm ▸ Std.IsPreorder.le_refl m
  · exact hfs f hf m hm ▸ hle g hg n hn

end Finding

end DeployLint
