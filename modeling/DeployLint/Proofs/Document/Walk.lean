import DeployLint.Proofs.Document.Order
import DeployLint.Proofs.Document.Run

/-!
# Document — what a walk visits

A walk is a loop over a list: `walk_eq` says that it runs its visitor over
`nodes`, whatever the visitor. What `nodes` holds is said without it: the
places of the tree down to the limit (`mem_nodes_iff`), in pre-order
(`nodesFrom_pairwise_before`). Together they say what a visitor is called on
(`walk_visits_nodes`).
-/

namespace DeployLint

namespace Document

/-! ## The nodes of a walk -/

/-- The nodes that a walk meets from a node at a given path, each with its path. -/
def nodesFrom (limit : Nat) (path : Path) (d : Document) : List (Path × Document) :=
  (d.meetingsFrom limit path).filterMap Meeting.node?

theorem nodes_eq_nodesFrom (d : Document) (limit : Nat) : d.nodes limit = nodesFrom limit .root d :=
  rfl

theorem filterMap_itemMeetings (limit : Nat) (path : Path) (position : Nat)
    (items : List Document) :
    (itemMeetings limit path position items).filterMap Meeting.node? =
      (items.zipIdx position).flatMap fun x => nodesFrom limit (path.index x.2) x.1 := by
  induction items generalizing position with
  | nil => rw [itemMeetings]; rfl
  | cons d ds ih =>
    rw [itemMeetings, List.filterMap_append, ih, List.zipIdx_cons, List.flatMap_cons]
    rfl

theorem filterMap_fieldMeetings (limit : Nat) (path : Path) (fields : List (String × Document)) :
    (fieldMeetings limit path fields).filterMap Meeting.node? =
      fields.flatMap fun f => nodesFrom limit (path.key f.1) f.2 := by
  induction fields with
  | nil => rw [fieldMeetings]; rfl
  | cons f rest ih =>
    rw [fieldMeetings, List.filterMap_append, ih, List.flatMap_cons]
    rfl

/-- **A node comes first, then what its children hold**, down to the limit. -/
theorem nodesFrom_eq (limit : Nat) (path : Path) (d : Document) :
    nodesFrom limit path d =
      if limit < path.depth then []
      else (path, d) :: d.children.flatMap fun x => nodesFrom limit (path.child x.1) x.2 := by
  cases d with
  | scalar value =>
    rw [nodesFrom, meetingsFrom]
    split <;> rfl
  | sequence items =>
    rw [nodesFrom, meetingsFrom]
    split
    · rfl
    · simp only [List.filterMap_cons, Meeting.node?, filterMap_itemMeetings, children,
        List.flatMap_map]
      rfl
  | mapping fields =>
    rw [nodesFrom, meetingsFrom]
    split
    · rfl
    · simp only [List.filterMap_cons, Meeting.node?, filterMap_fieldMeetings, children,
        List.flatMap_map]
      rfl

/-! ## A walk runs over its nodes -/

section Visitor

variable {σ : Type} {visit : Path → Document → σ → Progress σ}

open Progress

theorem walkItems_eq_runAll (limit : Nat) (path : Path) (position : Nat) (items : List Document)
    (s : σ) :
    walkItems limit visit path position items s =
      runAll (fun x => walkFrom limit visit (path.index x.2) x.1) (items.zipIdx position) s := by
  induction items generalizing position s with
  | nil => rw [walkItems]; rfl
  | cons d ds ih =>
    rw [walkItems, List.zipIdx_cons, runAll]
    exact congrArg (Progress.andThen _) (funext (ih (position + 1)))

theorem walkFields_eq_runAll (limit : Nat) (path : Path) (fields : List (String × Document))
    (s : σ) :
    walkFields limit visit path fields s =
      runAll (fun f => walkFrom limit visit (path.key f.1) f.2) fields s := by
  induction fields generalizing s with
  | nil => rw [walkFields]; rfl
  | cons f rest ih =>
    rw [walkFields, runAll]
    exact congrArg (Progress.andThen _) (funext ih)

/-- A visitor comes to a node first, then to what its children hold. -/
theorem walkFrom_eq (limit : Nat) (path : Path) (d : Document) (s : σ) :
    walkFrom limit visit path d s =
      if limit < path.depth then .goOn s
      else (visit path d s).andThen
        (runAll (fun x => walkFrom limit visit (path.child x.1) x.2) d.children) := by
  cases d with
  | scalar value =>
    rw [walkFrom, children]
    exact ite_congr rfl (fun _ => rfl) fun _ => (andThen_goOn _).symm
  | sequence items =>
    rw [walkFrom, children]
    refine ite_congr rfl (fun _ => rfl) fun _ => congrArg (Progress.andThen _) (funext fun t => ?_)
    rw [walkItems_eq_runAll, runAll_map]
    rfl
  | mapping fields =>
    rw [walkFrom, children]
    refine ite_congr rfl (fun _ => rfl) fun _ => congrArg (Progress.andThen _) (funext fun t => ?_)
    rw [walkFields_eq_runAll, runAll_map]
    rfl

/-- **A walk runs its visitor over the nodes**, from any node on. -/
theorem walkFrom_eq_runAll (limit : Nat) (path : Path) (d : Document) (s : σ) :
    walkFrom limit visit path d s =
      runAll (fun x => visit x.1 x.2) (nodesFrom limit path d) s := by
  -- a child is come to at another path and in another state
  induction d using child_induction generalizing path s with
  | node d ih =>
    rw [walkFrom_eq, nodesFrom_eq]
    split
    · rfl
    · rw [runAll]
      refine congrArg (Progress.andThen _) (funext fun t => ?_)
      rw [runAll_flatMap]
      exact runAll_congr (fun x hx u => ih x hx (path.child x.1) u) t

/-- **A walk is a run over `nodes`.** -/
theorem walk_eq (d : Document) (limit : Nat) (s : σ) :
    d.walk limit visit s = runAll (fun x => visit x.1 x.2) (d.nodes limit) s :=
  walkFrom_eq_runAll limit .root d s

/-- A visitor that never ends the walk folds over the nodes. -/
theorem walk_goOn {g : σ → Path × Document → σ} (h : ∀ p n s, visit p n s = .goOn (g s (p, n)))
    (d : Document) (limit : Nat) (s : σ) :
    d.walk limit visit s = .goOn ((d.nodes limit).foldl g s) := by
  rw [walk_eq]
  exact runAll_goOn (fun x : Path × Document => h x.1 x.2) _ s

/-- A visitor that looks for a node ends the walk exactly when one is within the limit. -/
theorem isHalt_walk_search (d : Document) (limit : Nat) (p : Document → Bool) (s : σ) :
    (d.walk limit (fun _ n s => if p n then .halt s else .goOn s) s).isHalt =
      (d.nodes limit).any fun x => p x.2 := by
  rw [walk_eq]
  exact isHalt_runAll_search (fun x : Path × Document => p x.2) _ s

end Visitor

/-! ## What the nodes are -/

/-- **The nodes from a place are the places below it**, down to the limit. -/
theorem mem_nodesFrom_iff {limit : Nat} {path : Path} {d : Document} (hd : d.Ordered)
    {q : Path} {n : Document} :
    (q, n) ∈ nodesFrom limit path d ↔
      q.depth ≤ limit ∧ ∃ steps, q.segments = path.segments ++ steps ∧
        steps.foldlM step? d = some n := by
  induction d using child_induction generalizing path with
  | node d ih =>
    rw [nodesFrom_eq]
    split
    · rename_i hlimit
      -- a path that goes on from this one is no shorter, so it is below the limit too
      refine ⟨fun h => (nomatch h), fun ⟨hdepth, steps, hq, _⟩ => ?_⟩
      have : q.depth = path.depth + steps.length := by
        rw [Path.depth, hq, List.length_append, Path.depth]
      omega
    · rename_i hlimit
      rw [List.mem_cons, List.mem_flatMap]
      constructor
      · rintro (heq | ⟨⟨s, c⟩, hx, hmem⟩)
        · obtain ⟨rfl, rfl⟩ := Prod.mk.inj heq
          exact ⟨by omega, [], (List.append_nil _).symm, rfl⟩
        · obtain ⟨hdepth, steps, hq, hsteps⟩ := (ih (s, c) hx (hd.child hx)).1 hmem
          refine ⟨hdepth, s :: steps, by rw [hq, Path.child, List.append_assoc]; rfl, ?_⟩
          rw [List.foldlM_cons, (step?_eq_some_iff hd).2 hx]
          exact hsteps
      · rintro ⟨hdepth, steps, hq, hsteps⟩
        -- no step leads to the node itself, and a first one to a child
        cases steps with
        | nil =>
          obtain rfl := Option.some.inj hsteps
          rw [List.append_nil] at hq
          have hpath : q = path := congrArg Path.mk hq
          exact .inl (Prod.ext hpath rfl)
        | cons s steps =>
          rw [List.foldlM_cons] at hsteps
          obtain ⟨c, hc, hrest⟩ := Option.bind_eq_some_iff.1 hsteps
          have hx : (s, c) ∈ d.children := (step?_eq_some_iff hd).1 hc
          refine .inr ⟨(s, c), hx, (ih (s, c) hx (hd.child hx)).2 ⟨hdepth, steps, ?_, hrest⟩⟩
          rw [hq, Path.child, List.append_assoc]
          rfl

/-- **The nodes come in pre-order.** A node's path comes before those that
go on from it, and the paths through one child before those through the
next. -/
theorem nodesFrom_pairwise_before {limit : Nat} {path : Path} {d : Document} (hd : d.Ordered) :
    (nodesFrom limit path d).Pairwise fun x y => x.1.Before y.1 := by
  induction d using child_induction generalizing path with
  | node d ih =>
    -- every path met through a child goes on from the child's own
    have hbelow : ∀ x ∈ d.children, ∀ y ∈ nodesFrom limit (path.child x.1) x.2,
        ∃ steps, y.1.segments = path.segments ++ x.1 :: steps := by
      intro x hx y hy
      obtain ⟨-, steps, hq, -⟩ := (mem_nodesFrom_iff (hd.child hx)).1 hy
      exact ⟨steps, by rw [hq, Path.child, List.append_assoc]; rfl⟩
    rw [nodesFrom_eq]
    split
    · exact List.Pairwise.nil
    · refine List.pairwise_cons.2 ⟨fun y hy => ?_, List.pairwise_flatMap.2
        ⟨fun x hx => ih x hx (hd.child hx), (children_pairwise hd).imp_of_mem ?_⟩⟩
      · obtain ⟨x, hx, hmem⟩ := List.mem_flatMap.1 hy
        obtain ⟨steps, hq⟩ := hbelow x hx y hmem
        have hlex : List.Lex Segment.Before (path.segments ++ []) (path.segments ++ x.1 :: steps) :=
          List.Lex.append_left _ .nil _
        rw [List.append_nil, ← hq] at hlex
        exact hlex
      · intro x₁ x₂ hx₁ hx₂ hbefore y₁ hy₁ y₂ hy₂
        obtain ⟨steps₁, hq₁⟩ := hbelow x₁ hx₁ y₁ hy₁
        obtain ⟨steps₂, hq₂⟩ := hbelow x₂ hx₂ y₂ hy₂
        rw [Path.Before, hq₁, hq₂]
        exact List.Lex.append_left _ (.rel hbefore) _

/-- **The nodes of a document are its places down to the limit.** -/
theorem mem_nodes_iff {d : Document} (hd : d.Ordered) {limit : Nat} {p : Path} {n : Document} :
    (p, n) ∈ d.nodes limit ↔ p.depth ≤ limit ∧ d.at? p = some n := by
  rw [nodes_eq_nodesFrom, mem_nodesFrom_iff hd]
  refine and_congr_right fun _ => ⟨?_, fun h => ⟨p.segments, rfl, h⟩⟩
  rintro ⟨steps, hp, hsteps⟩
  have hp : p.segments = steps := hp
  rw [at?, hp]
  exact hsteps

/-- No place is met twice. -/
theorem nodup_paths_nodes {d : Document} (hd : d.Ordered) (limit : Nat) :
    ((d.nodes limit).map Prod.fst).Nodup := by
  refine List.pairwise_map.2 ((nodesFrom_pairwise_before hd).imp fun {x y} hbefore heq => ?_)
  exact x.1.not_before_self (heq ▸ hbefore)

/-! ## What a visitor is called on -/

/-- The visitor that also writes down the places it is called on. -/
def recording {σ : Type} (visit : Path → Document → σ → Progress σ) (p : Path) (d : Document)
    (s : σ × List (Path × Document)) : Progress (σ × List (Path × Document)) :=
  (visit p d s.1).map fun t => (t, s.2 ++ [(p, d)])

/-- **A walk calls its visitor on the nodes down to the limit, in pre-order,
each once, up to the first on which it halts.** The first two clauses say
which list `nodes` is: every place of the tree within the limit, ordered by
its path. The third says that writing the calls down changes nothing, so
that the last four speak of the visitor's own walk: it goes on to the end
exactly when the visitor goes on over all nodes, it halts exactly when the
visitor does on one of them, in the state it has reached by then, and what
it was called on are places of the tree, none of them twice. That the tree
is ordered is no restriction: every one that is read is
(`ordered_of_mem_parseFile`). -/
theorem walk_visits_nodes {σ : Type} {d : Document} (hd : d.Ordered) (limit : Nat)
    (visit : Path → Document → σ → Progress σ) (s : σ) :
    (∀ p n, (p, n) ∈ d.nodes limit ↔ p.depth ≤ limit ∧ d.at? p = some n) ∧
    ((d.nodes limit).Pairwise fun x y => x.1.Before y.1) ∧
    (d.walk limit (recording visit) (s, [])).map Prod.fst = d.walk limit visit s ∧
    (∀ t calls, d.walk limit (recording visit) (s, []) = .goOn (t, calls) ↔
      calls = d.nodes limit ∧
        Progress.GoesOn (fun x => visit x.1 x.2) (d.nodes limit) s t) ∧
    (∀ t calls, d.walk limit (recording visit) (s, []) = .halt (t, calls) ↔
      ∃ before x after u, d.nodes limit = before ++ x :: after ∧ calls = before ++ [x] ∧
        Progress.GoesOn (fun x => visit x.1 x.2) before s u ∧ visit x.1 x.2 u = .halt t) ∧
    (∀ x ∈ (d.walk limit (recording visit) (s, [])).state.2, d.at? x.1 = some x.2) ∧
    ((d.walk limit (recording visit) (s, [])).state.2.map Prod.fst).Nodup := by
  have hrecord : d.walk limit (recording visit) (s, []) =
      Progress.runAll (Progress.recorded fun x => visit x.1 x.2) (d.nodes limit) (s, []) :=
    walk_eq d limit (s, [])
  have hcalls : (d.walk limit (recording visit) (s, [])).state.2 <+: d.nodes limit := by
    rw [hrecord]
    exact Progress.calls_isPrefix _ s
  refine ⟨fun p n => mem_nodes_iff hd, nodesFrom_pairwise_before hd, ?_, ?_, ?_, ?_, ?_⟩
  · rw [hrecord, walk_eq, Progress.map_runAll_recorded]
  · intro t calls
    rw [hrecord, Progress.runAll_recorded_eq_goOn_iff]
  · intro t calls
    rw [hrecord, Progress.runAll_recorded_eq_halt_iff]
  · intro x hx
    exact ((mem_nodes_iff hd).1 (hcalls.subset hx)).2
  · exact (nodup_paths_nodes hd limit).sublist (hcalls.sublist.map _)

/-- A tree of three levels below its root. -/
def threeLevels : Document :=
  .mapping [("a", .string "v"), ("b", .sequence [.mapping [("x", .null)], .null])]

/-- A visitor that halts on its fourth call walks down to the first item of
`b`. Nothing behind it is visited, and `b[0].x` is below the limit. -/
theorem walk_visits_nodes_until_fourth :
    threeLevels.Ordered ∧
      threeLevels.walk 2 (recording fun _ _ n => if n = 3 then .halt n else .goOn (n + 1)) (0, []) =
        .halt (3, [(⟨[]⟩, threeLevels), (⟨[.key "a"]⟩, .string "v"),
          (⟨[.key "b"]⟩, .sequence [.mapping [("x", .null)], .null]),
          (⟨[.key "b", .index 0]⟩, .mapping [("x", .null)])]) := by
  have hd : threeLevels.Ordered := by
    refine .mapping (by decide) (List.forall_mem_cons.2 ⟨.scalar _, List.forall_mem_cons.2 ⟨?_, ?_⟩⟩)
    · refine .sequence (List.forall_mem_cons.2 ⟨.mapping (by decide) ?_, ?_⟩)
      · exact List.forall_mem_singleton.2 (.scalar _)
      · exact List.forall_mem_singleton.2 (.scalar _)
    · exact fun f hf => absurd hf List.not_mem_nil
  refine ⟨hd, ((walk_visits_nodes hd 2 _ 0).2.2.2.2.1 3 _).2 ?_⟩
  refine ⟨[(⟨[]⟩, threeLevels), (⟨[.key "a"]⟩, .string "v"),
    (⟨[.key "b"]⟩, .sequence [.mapping [("x", .null)], .null])],
    (⟨[.key "b", .index 0]⟩, .mapping [("x", .null)]), [(⟨[.key "b", .index 1]⟩, .null)], 3,
    rfl, rfl, ?_, rfl⟩
  exact .cons rfl (.cons rfl (.cons rfl (.nil 3)))

end Document

end DeployLint
