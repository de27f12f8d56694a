import Mathlib.Data.List.Lex
import DeployLint.Document.Walk
import DeployLint.Proofs.Fields

/-!
# Document — trees in order

What a mapping and a sequence hold is read here in one way: `children`
lists it, each part with the step that leads to it. In a tree whose
mappings ascend, `Ordered`, a step leads to a child exactly when `children`
lists it (`step?_eq_some_iff`), and the list follows the order of the steps
(`children_pairwise`). Paths are ordered after their steps, a path before
its extensions: the order in which a walk meets them.
-/

namespace DeployLint

/-! ## The order of paths -/

/-- The order of the steps from one node: keys by their code points,
positions by number. -/
def Segment.Before : Segment → Segment → Prop
  | .key a, .key b => a < b
  | .index i, .index j => i < j
  | _, _ => False

theorem Segment.not_before_self (s : Segment) : ¬ s.Before s := by
  cases s with
  | key name => exact String.lt_irrefl name
  | index position => exact Nat.lt_irrefl position

/-- **Pre-order**: a path comes before those that go on from it, and two
paths that part are ordered by the steps they part with. -/
def Path.Before (p q : Path) : Prop := List.Lex Segment.Before p.segments q.segments

theorem Path.not_before_self (p : Path) : ¬ p.Before p := by
  obtain ⟨steps⟩ := p
  induction steps with
  | nil => exact fun h => nomatch h
  | cons s steps ih =>
    rintro (_ | h | h)
    · exact s.not_before_self h
    · exact ih h

/-! ## Children -/

namespace Document

/-- What a node holds, in order, each part with the step that leads to it. -/
def children : Document → List (Segment × Document)
  | .scalar _ => []
  | .sequence items => items.zipIdx.map fun x => (.index x.2, x.1)
  | .mapping fields => fields.map fun f => (.key f.1, f.2)

theorem sizeOf_lt_of_mem_children {d : Document} {x : Segment × Document} (hx : x ∈ d.children) :
    sizeOf x.2 < sizeOf d := by
  cases d with
  | scalar value => simp [children] at hx
  | sequence items =>
    obtain ⟨y, hy, rfl⟩ := List.mem_map.1 hx
    have hmem : y.1 ∈ items := List.fst_mem_of_mem_zipIdx hy
    have := List.sizeOf_lt_of_mem hmem
    simp only [sequence.sizeOf_spec]
    omega
  | mapping fields =>
    obtain ⟨f, hf, rfl⟩ := List.mem_map.1 hx
    have := List.sizeOf_lt_of_mem hf
    have hpair : sizeOf f = 1 + sizeOf f.1 + sizeOf f.2 := rfl
    simp only [mapping.sizeOf_spec]
    omega

/-- **Induction on trees**: what holds of a node where it holds of its
children holds of every node. -/
@[elab_as_elim]
theorem child_induction {motive : Document → Prop}
    (node : ∀ d, (∀ x ∈ d.children, motive x.2) → motive d) (d : Document) : motive d :=
  node d fun x _ => child_induction node x.2
termination_by sizeOf d
decreasing_by exact sizeOf_lt_of_mem_children ‹_›

/-- The names of every mapping within the tree ascend. -/
inductive Ordered : Document → Prop
  | scalar (value : Scalar) : Ordered (.scalar value)
  | sequence {items : List Document} : (∀ d ∈ items, Ordered d) → Ordered (.sequence items)
  | mapping {fields : Fields Document} :
      fields.Ascending → (∀ f ∈ fields, Ordered f.2) → Ordered (.mapping fields)

/-- What an ordered tree holds is ordered. -/
theorem Ordered.child {d : Document} (hd : d.Ordered) {x : Segment × Document}
    (hx : x ∈ d.children) : x.2.Ordered := by
  cases hd with
  | scalar value => simp [children] at hx
  | sequence h =>
    obtain ⟨y, hy, rfl⟩ := List.mem_map.1 hx
    exact h y.1 (List.fst_mem_of_mem_zipIdx hy)
  | mapping _ h =>
    obtain ⟨f, hf, rfl⟩ := List.mem_map.1 hx
    exact h f hf

/-- **A step leads to what `children` lists under it.** -/
theorem step?_eq_some_iff {d : Document} (hd : d.Ordered) {s : Segment} {c : Document} :
    d.step? s = some c ↔ (s, c) ∈ d.children := by
  cases hd with
  | scalar value => cases s <;> simp [step?, get?, item?, children]
  | @sequence items _ =>
    cases s with
    | key name => simp [step?, get?, children]
    | index position =>
      simp only [step?, item?, children, List.mem_map, Prod.mk.injEq, Segment.index.injEq]
      constructor
      · intro h
        exact ⟨(c, position), List.mk_mem_zipIdx_iff_getElem?.2 h, rfl, rfl⟩
      · rintro ⟨y, hy, rfl, rfl⟩
        exact List.mem_zipIdx_iff_getElem?.1 hy
  | @mapping fields hnames _ =>
    cases s with
    | index position => simp [step?, item?, children]
    | key name =>
      simp only [step?, get?, children, List.mem_map, Prod.mk.injEq, Segment.key.injEq,
        Fields.get?_eq_some_iff hnames]
      constructor
      · intro h
        exact ⟨(name, c), h, rfl, rfl⟩
      · rintro ⟨f, hf, rfl, rfl⟩
        exact hf

/-- The children of an ordered tree follow the order of their steps. -/
theorem children_pairwise {d : Document} (hd : d.Ordered) :
    d.children.Pairwise fun x y => x.1.Before y.1 := by
  cases hd with
  | scalar value => exact List.Pairwise.nil
  | @sequence items _ =>
    have hpositions : (items.zipIdx.map Prod.snd).Pairwise (· < ·) := by
      rw [List.zipIdx_map_snd]
      exact List.pairwise_lt_range'
    have hitems : items.zipIdx.Pairwise fun x y => x.2 < y.2 := List.pairwise_map.1 hpositions
    exact List.pairwise_map.2 hitems
  | @mapping fields hnames _ =>
    have hfields : fields.Pairwise fun f g => f.1 < g.1 := List.pairwise_map.1 hnames
    exact List.pairwise_map.2 hfields

end Document

end DeployLint
