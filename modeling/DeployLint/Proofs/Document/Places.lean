import DeployLint.Proofs.Document.Walk

/-!
# Document — places that are there and places that are not

A path leads to a node of a document (`Has`), or it ends in a key that the
node before it does not have (`Lacks`). Whoever looks a key up knows which of
the two holds of the path one key further (`has_key`, `lacks_key`).
-/

namespace DeployLint

namespace Document

variable {d n : Document} {p : Path}

/-- A path one step further leads where that step leads from the path's own node. -/
theorem at?_child (d : Document) (p : Path) (s : Segment) :
    d.at? (p.child s) = (d.at? p).bind fun n => n.step? s := by
  rw [at?, Path.child, List.foldlM_append]
  exact congrArg (d.at? p).bind (funext fun n => List.foldlM_cons.trans (bind_pure _))

theorem at?_key (d : Document) (p : Path) (name : String) :
    d.at? (p.key name) = (d.at? p).bind fun n => n.get? name :=
  at?_child d p (.key name)

theorem at?_index (d : Document) (p : Path) (position : Nat) :
    d.at? (p.index position) = (d.at? p).bind fun n => n.item? position :=
  at?_child d p (.index position)

/-- A path of keys leads where the chain of the keys leads. -/
theorem at?_ofKeys (d : Document) (names : List String) :
    d.at? (.ofKeys names) = d.getPath? names := by
  rw [at?, Path.ofKeys, List.foldlM_map]
  rfl

theorem asMapping?_eq_some_iff {fields : Fields Document} :
    d.asMapping? = some fields ↔ d = .mapping fields := by
  cases d <;> simp [asMapping?]

theorem asSequence?_eq_some_iff {items : List Document} :
    d.asSequence? = some items ↔ d = .sequence items := by
  cases d <;> simp [asSequence?]

theorem asScalar?_eq_some_iff {value : Scalar} :
    d.asScalar? = some value ↔ d = .scalar value := by
  cases d <;> simp [asScalar?]

theorem mem_stringItems_iff {text : String} :
    text ∈ d.stringItems ↔ ∃ items, d = .sequence items ∧ .string text ∈ items := by
  cases d <;> simp [stringItems, asString?_eq_some_iff]

/-- Only a mapping has keys. -/
theorem exists_fields_of_get? {name : String} (h : d.get? name = some n) :
    ∃ fields, d = .mapping fields := by
  cases d with
  | scalar _ => exact nomatch h
  | sequence _ => exact nomatch h
  | mapping fields => exact ⟨fields, rfl⟩

/-- What every step hands on is handed on by paths. -/
theorem of_at?_of_step {P : Document → Prop}
    (hstep : ∀ {d c : Document} {s : Segment}, P d → d.step? s = some c → P c) (hd : P d)
    (hn : d.at? p = some n) : P n := by
  obtain ⟨steps⟩ := p
  rw [at?] at hn
  induction steps generalizing d with
  | nil => exact Option.some.inj hn ▸ hd
  | cons step steps ih =>
    rw [List.foldlM_cons] at hn
    obtain ⟨child, hchild, hrest⟩ := Option.bind_eq_some_iff.1 hn
    exact ih (hstep hd hchild) hrest

/-! ## Two kinds of places -/

/-- A path leads to a node. -/
def Has (d : Document) (p : Path) : Prop := ∃ n, d.at? p = some n

/-- A path leads nowhere, by a key that the node before it does not have. -/
def Lacks (d : Document) (p : Path) : Prop :=
  ∃ q name, p = q.key name ∧ d.Has q ∧ d.at? p = none

/-- A key that a node has leads to what it holds there. -/
theorem at?_key_of_get? {m : Document} {name : String} (hp : d.at? p = some n)
    (h : n.get? name = some m) : d.at? (p.key name) = some m := by
  rw [at?_key, hp]
  exact h

theorem has_key {m : Document} {name : String} (hp : d.at? p = some n)
    (h : n.get? name = some m) : d.Has (p.key name) :=
  ⟨m, at?_key_of_get? hp h⟩

/-- A key that a node does not have leads nowhere. -/
theorem lacks_key {name : String} (hp : d.at? p = some n) (h : n.get? name = none) :
    d.Lacks (p.key name) := by
  refine ⟨p, name, rfl, ⟨n, hp⟩, ?_⟩
  rw [at?_key, hp]
  exact h

/-- So do the names of a list that are kept because a node does not have them. -/
theorem lacks_of_mem_filter {names : List String} {name : String} (hp : d.at? p = some n)
    (h : name ∈ names.filter fun name => !n.hasKey name) : d.Lacks (p.key name) := by
  obtain ⟨-, hmissing⟩ := List.mem_filter.1 h
  rw [hasKey, Option.not_isSome, Option.isNone_iff_eq_none] at hmissing
  exact lacks_key hp hmissing

/-- A key on the way to a node is a key of the document. -/
theorem Has.exists_key {name : String} (hp : d.Has p) (hname : .key name ∈ p.segments) :
    ∃ q : Path, d.Has (q.key name) := by
  obtain ⟨before, rest, hsegments⟩ := List.append_of_mem hname
  obtain ⟨n, hn⟩ := hp
  have hsteps : p.segments = (Path.key ⟨before⟩ name).segments ++ rest := by
    rw [hsegments, Path.key, Path.child, List.append_assoc, List.singleton_append]
  rw [at?, hsteps, List.foldlM_append] at hn
  obtain ⟨m, hm, -⟩ := Option.bind_eq_some_iff.1 hn
  exact ⟨⟨before⟩, m, hm⟩

/-- A position of a sequence leads to its item. -/
theorem at?_index_of_getElem? {items : List Document} {m : Document} {position : Nat}
    (hp : d.at? p = some (.sequence items)) (h : items[position]? = some m) :
    d.at? (p.index position) = some m := by
  rw [at?_index, hp]
  exact h

/-- What is asked of the items alone is asked of them wherever they stand. -/
theorem forall_mem_zipIdx_iff {items : List Document} {p : Document → Prop} :
    (∀ x ∈ items.zipIdx, p x.1) ↔ ∀ item ∈ items, p item := by
  constructor
  · intro h item hitem
    obtain ⟨i, hi⟩ := List.mem_iff_getElem?.1 hitem
    exact h (item, i) (List.mem_zipIdx_iff_getElem?.2 hi)
  · exact fun h x hx => h x.1 (List.fst_mem_of_mem_zipIdx hx)

end Document

end DeployLint
