import DeployLint.Proofs.Document.Places
import DeployLint.Proofs.Json.OneLine

/-!
# Document — the texts that a document holds

A document says the texts of its leaves and the names of its keys. Messages
show parts of a document and paths through it. Both stay on one line where
every text that the document says does (`Document.OneLine.text`,
`Document.OneLine.path`); all that is not such a text never leaves it.
-/

namespace DeployLint

/-! ## Paths -/

namespace Path

/-- A path whose keys stay on one line. -/
def OneLine (p : Path) : Prop := ∀ name, .key name ∈ p.segments → Text.OneLine name

variable {p : Path} {name : String} {position : Nat}

theorem oneLine_root : root.OneLine := fun _ hname => absurd hname List.not_mem_nil

theorem oneLine_ofKeys {names : List String} :
    (ofKeys names).OneLine ↔ ∀ name ∈ names, Text.OneLine name := by
  simp [OneLine, ofKeys]

theorem oneLine_key : (p.key name).OneLine ↔ p.OneLine ∧ Text.OneLine name := by
  simp [OneLine, key, child, or_imp, forall_and]

theorem oneLine_index : (p.index position).OneLine ↔ p.OneLine := by
  simp [OneLine, index, child]

theorem oneLine_stepText {s : Segment} (h : ∀ name, s = .key name → Text.OneLine name) :
    Text.OneLine (stepText s) := by
  cases s with
  | key name => exact Text.oneLine_append.2 ⟨by decide, h name rfl⟩
  | index position =>
    exact Text.oneLine_append.2 ⟨Text.oneLine_append.2 ⟨by decide, Text.oneLine_repr position⟩,
      by decide⟩

/-- **The text of a path is on one line** where its keys are. -/
theorem OneLine.text (h : p.OneLine) : Text.OneLine p.text := by
  have hsteps : ∀ steps ⊆ p.segments, Text.OneLine (String.join (steps.map stepText)) := by
    refine fun steps hsubset => Text.oneLine_join fun l hl => ?_
    obtain ⟨s, hs, rfl⟩ := List.mem_map.1 hl
    exact oneLine_stepText fun name hname => h name (hname ▸ hsubset hs)
  rw [Path.text]
  split
  · decide
  · rename_i name rest hsegments
    rw [OneLine] at h
    rw [hsegments] at h hsteps
    exact Text.oneLine_append.2 ⟨h name List.mem_cons_self,
      hsteps rest (List.subset_cons_self _ _)⟩
  · rename_i position rest hsegments
    rw [hsegments] at hsteps
    exact hsteps _ (List.Subset.refl _)

end Path

/-! ## Documents -/

namespace Document

variable {d n : Document} {p : Path} {s : String}

/-- A text that a document holds: a leaf, or the name of a key. -/
inductive Says (d : Document) : String → Prop
  | leaf {p : Path} {s : String} : d.at? p = some (.string s) → d.Says s
  | key {p : Path} {name : String} : d.Has (p.key name) → d.Says name

/-- A document whose texts all stay on one line. -/
def OneLine (d : Document) : Prop := ∀ s, d.Says s → Text.OneLine s

/-- A document with a text on several lines. -/
theorem exists_of_not_oneLine (h : ¬ d.OneLine) : ∃ s, d.Says s ∧ ¬ Text.OneLine s := by
  obtain ⟨s, hs⟩ := Classical.not_forall.1 h
  exact ⟨s, Classical.not_imp.1 hs⟩

/-- The keys of a path that leads to a node are names that the document says. -/
theorem OneLine.path (hd : d.OneLine) (hp : d.Has p) : p.OneLine := by
  intro name hname
  obtain ⟨q, hq⟩ := hp.exists_key hname
  exact hd name (.key hq)

/-- A scalar that is no text is shown on one line. -/
theorem oneLine_scalarText {value : Scalar} (h : ∀ s, value = .string s → Text.OneLine s) :
    Text.OneLine value.text := by
  cases value with
  | null => decide
  | bool b => cases b <;> decide
  | int n => exact Text.oneLine_toString_int n.toInt
  | float x => exact Text.oneLine_ofList.2 (Decimal.isOneLine_plain.newline_not_mem_chars x)
  | string s => exact h s rfl

/-- **A part of a document is shown on one line** where the document's texts are. -/
theorem OneLine.text (hd : d.OneLine) (hn : d.at? p = some n) : Text.OneLine n.text := by
  cases n with
  | scalar value => exact oneLine_scalarText fun s hs => hd s (.leaf (hs ▸ hn))
  | sequence items => exact Json.oneLine_compact _
  | mapping fields => exact Json.oneLine_compact _

theorem OneLine.scalarText? (hd : d.OneLine) (hn : d.at? p = some n) {text : String}
    (h : n.scalarText? = some text) : Text.OneLine text := by
  obtain ⟨value, hvalue, rfl⟩ := Option.map_eq_some_iff.1 h
  cases n with
  | scalar other =>
    obtain rfl := Option.some.inj hvalue
    exact hd.text hn
  | sequence items => exact nomatch hvalue
  | mapping fields => exact nomatch hvalue

theorem OneLine.asString? (hd : d.OneLine) (hn : d.at? p = some n)
    (h : n.asString? = some s) : Text.OneLine s := by
  obtain rfl := asString?_eq_some_iff.1 h
  exact hd s (.leaf hn)

/-- The texts of a node, be it a text alone or a sequence of them. -/
theorem OneLine.stringValues (hd : d.OneLine) (hn : d.at? p = some n)
    (h : s ∈ n.stringValues) : Text.OneLine s := by
  rw [Document.stringValues] at h
  split at h
  · rename_i value hvalue
    obtain rfl := List.mem_singleton.1 h
    exact hd.asString? hn hvalue
  · cases n with
    | scalar value => exact absurd h List.not_mem_nil
    | mapping fields => exact absurd h List.not_mem_nil
    | sequence items =>
      obtain ⟨item, hitem, hstring⟩ := List.mem_filterMap.1 h
      obtain ⟨position, hposition⟩ := List.mem_iff_getElem?.1 hitem
      exact hd.asString? (at?_index_of_getElem? hn hposition) hstring

/-! ## Ordered documents -/

/-- What a path leads to within an ordered tree is ordered. -/
theorem Ordered.of_at? (hd : d.Ordered) (hn : d.at? p = some n) : n.Ordered :=
  of_at?_of_step (fun hd hchild => hd.child ((step?_eq_some_iff hd).1 hchild)) hd hn

/-- An entry of a mapping within an ordered tree is what its name leads to. -/
theorem Ordered.at?_entry (hd : d.Ordered) {fields : Fields Document}
    (hp : d.at? p = some (.mapping fields)) {x : String × Document} (hx : x ∈ fields) :
    d.at? (p.key x.1) = some x.2 := by
  have hentry : (Segment.key x.1, x.2) ∈ (Document.mapping fields).children := List.mem_map_of_mem hx
  rw [at?_key, hp]
  exact (step?_eq_some_iff (hd.of_at? hp)).2 hentry

end Document

end DeployLint
