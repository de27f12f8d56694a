import DeployLint.Proofs.Document.Places
import DeployLint.Proofs.Finding.Places
import DeployLint.Proofs.Text.Runs

/-!
# Document — paths are known from their texts

The text of a path writes a key behind a point and a position in brackets. A
key is plain if it is not empty and holds neither a point nor an opening
bracket; whatever else it holds, a closing bracket or digits, the text of its
step ends where that of the next step begins. So the steps are read back one
at a time (`flatMap_stepChars_inj`). The first step is the exception, since a
key that comes first has no point before it and the root is written as one:
`mark` puts the point there, or takes it away.

Where all keys of a document are plain the text of a path is as good as the
path (`texts_tell_places`).
-/

namespace DeployLint

/-- A key is plain if it is not empty and holds no character that begins a step. -/
def PlainKey (name : String) : Prop :=
  name ≠ "" ∧ '.' ∉ name.toList ∧ '[' ∉ name.toList

instance (name : String) : Decidable (PlainKey name) :=
  inferInstanceAs (Decidable (name ≠ "" ∧ '.' ∉ name.toList ∧ '[' ∉ name.toList))

namespace Path

variable {p q : Path} {s t : Segment} {rest rest' : List Char}

/-- A path whose keys are all plain. -/
def Plain (p : Path) : Prop := ∀ name, .key name ∈ p.segments → PlainKey name

/-! ## One step -/

/-- Whether a character begins no step. -/
def staysInStep (c : Char) : Bool := c != '.' && c != '['

/-- The characters of a step that is not the first. -/
def stepChars (s : Segment) : List Char := (stepText s).toList

theorem stepChars_key (name : String) : stepChars (.key name) = '.' :: name.toList := by
  rw [stepChars, stepText, String.toList_append]
  rfl

theorem stepChars_index (position : Nat) :
    stepChars (.index position) = '[' :: (Nat.toDigits 10 position ++ [']']) := by
  rw [stepChars, stepText, String.toList_append, String.toList_append]
  simp [Nat.repr_eq_ofList_toDigits]

theorem staysInStep_of_mem {name : String} (h : PlainKey name) :
    ∀ c ∈ name.toList, staysInStep c = true := by
  obtain ⟨-, hpoint, hbracket⟩ := h
  intro c hc
  have hne : c ≠ '.' ∧ c ≠ '[' := ⟨fun h => hpoint (h ▸ hc), fun h => hbracket (h ▸ hc)⟩
  simpa [staysInStep] using hne

/-- **A step ends where the next one begins**: of two texts that are equal, the
first steps and what follows them are. -/
theorem stepChars_append_inj (hs : ∀ name, s = .key name → PlainKey name)
    (ht : ∀ name, t = .key name → PlainKey name)
    (hrest : ∀ c ∈ rest.head?, staysInStep c = false)
    (hrest' : ∀ c ∈ rest'.head?, staysInStep c = false)
    (h : stepChars s ++ rest = stepChars t ++ rest') : s = t ∧ rest = rest' := by
  cases s with
  | key name =>
    cases t with
    | key name' =>
      simp only [stepChars_key, List.cons_append, List.cons.injEq, true_and] at h
      obtain ⟨hname, hbehind⟩ := Text.run_append_inj (staysInStep_of_mem (hs name rfl)) hrest
        (staysInStep_of_mem (ht name' rfl)) hrest' h
      exact ⟨congrArg Segment.key (String.toList_inj.1 hname), hbehind⟩
    | index position => simp [stepChars_key, stepChars_index] at h
  | index position =>
    cases t with
    | key name => simp [stepChars_key, stepChars_index] at h
    | index position' =>
      have hdigits : ∀ n : Nat, ∀ c ∈ Nat.toDigits 10 n, c.isDigit = true :=
        fun n c hc => Nat.isDigit_of_mem_toDigits (by decide) (by decide) hc
      have hclose : ∀ rest : List Char, ∀ c ∈ (']' :: rest).head?, c.isDigit = false := by
        simp
      simp only [stepChars_index, List.cons_append, List.append_assoc, List.cons.injEq,
        true_and] at h
      obtain ⟨hwritten, hbehind⟩ := Text.run_append_inj (hdigits position) (hclose rest)
        (hdigits position') (hclose rest') h
      have hposition : position = position' := by
        calc position = Nat.ofDigitChars 10 (Nat.toDigits 10 position) 0 :=
              Nat.ofDigitChars_ten_toDigits.symm
          _ = Nat.ofDigitChars 10 (Nat.toDigits 10 position') 0 := by rw [hwritten]
          _ = position' := Nat.ofDigitChars_ten_toDigits
      exact ⟨congrArg Segment.index hposition, (List.cons.inj hbehind).2⟩

/-! ## All steps -/

/-- What steps are written as begins a step. -/
theorem staysInStep_head?_flatMap (steps : List Segment) :
    ∀ c ∈ (steps.flatMap stepChars).head?, staysInStep c = false := by
  cases steps with
  | nil => exact fun c hc => nomatch hc
  | cons s steps => cases s <;> simp [stepChars_key, stepChars_index, staysInStep]

theorem stepChars_ne_nil (s : Segment) : stepChars s ≠ [] := by
  cases s with
  | key name => rw [stepChars_key]; exact List.cons_ne_nil _ _
  | index position => rw [stepChars_index]; exact List.cons_ne_nil _ _

/-- **Steps are known from what they are written as.** -/
theorem flatMap_stepChars_inj {steps others : List Segment}
    (hsteps : ∀ name, .key name ∈ steps → PlainKey name)
    (hothers : ∀ name, .key name ∈ others → PlainKey name)
    (h : steps.flatMap stepChars = others.flatMap stepChars) : steps = others := by
  induction steps generalizing others with
  | nil =>
    cases others with
    | nil => rfl
    | cons t others => exact absurd (List.append_eq_nil_iff.1 h.symm).1 (stepChars_ne_nil t)
  | cons s steps ih =>
    cases others with
    | nil => exact absurd (List.append_eq_nil_iff.1 h).1 (stepChars_ne_nil s)
    | cons t others =>
      have hs : ∀ name, s = .key name → PlainKey name :=
        fun name hname => hsteps name (hname ▸ List.mem_cons_self)
      have ht : ∀ name, t = .key name → PlainKey name :=
        fun name hname => hothers name (hname ▸ List.mem_cons_self)
      obtain ⟨rfl, hrest⟩ := stepChars_append_inj hs ht (staysInStep_head?_flatMap steps)
        (staysInStep_head?_flatMap others) h
      rw [ih (fun name hname => hsteps name (List.mem_cons_of_mem _ hname))
        (fun name hname => hothers name (List.mem_cons_of_mem _ hname)) hrest]

/-! ## The whole text -/

/-- The text of a path with the mark of its first step: a point in front of a
key, none for the root. -/
def mark : List Char → List Char
  | ['.'] => []
  | '[' :: cs => '[' :: cs
  | cs => '.' :: cs

theorem mark_cons {c : Char} (hc : staysInStep c = true) (cs : List Char) :
    mark (c :: cs) = '.' :: c :: cs := by
  have hne : c ≠ '.' ∧ c ≠ '[' := by simpa [staysInStep] using hc
  refine mark.eq_3 (c :: cs) (fun h => ?_) fun cs' h => ?_
  · exact hne.1 (List.cons.inj h).1
  · exact hne.2 (List.cons.inj h).1

/-- **The text of a plain path tells its steps**, the first one included. -/
theorem mark_text (hp : p.Plain) : mark p.text.toList = p.segments.flatMap stepChars := by
  obtain ⟨segments⟩ := p
  have hjoin : ∀ steps : List Segment, (String.join (steps.map stepText)).toList =
      steps.flatMap stepChars := by
    intro steps
    rw [String.toList_join, List.flatMap_map]
    rfl
  cases segments with
  | nil => rfl
  | cons s rest =>
    cases s with
    | index position =>
      rw [text, hjoin, List.flatMap_cons, stepChars_index, List.cons_append]
      rfl
    | key name =>
      have hname : PlainKey name := hp name List.mem_cons_self
      obtain ⟨c, cs, hchars⟩ := List.exists_cons_of_ne_nil (mt String.toList_eq_nil_iff.1 hname.1)
      have hc : staysInStep c = true :=
        staysInStep_of_mem hname c (hchars ▸ List.mem_cons_self)
      rw [text, String.toList_append, hjoin, hchars, List.cons_append, mark_cons hc,
        List.flatMap_cons, stepChars_key, hchars]
      rfl

/-- **Plain paths with the same text are the same.** -/
theorem text_inj (hp : p.Plain) (hq : q.Plain) (h : p.text = q.text) : p = q := by
  have hsteps : p.segments.flatMap stepChars = q.segments.flatMap stepChars := by
    rw [← mark_text hp, h, mark_text hq]
  exact congrArg Path.mk (flatMap_stepChars_inj hp hq hsteps)

/-- A point within a key reads like one between two. -/
example : (ofKeys ["a.b"]).text = (ofKeys ["a", "b"]).text := by decide

end Path

namespace Document

variable {d : Document} {p q : Path}

/-- The keys of every mapping within the tree are plain. -/
inductive PlainKeys : Document → Prop
  | scalar (value : Scalar) : PlainKeys (.scalar value)
  | sequence {items : List Document} : (∀ d ∈ items, PlainKeys d) → PlainKeys (.sequence items)
  | mapping {fields : Fields Document} :
      (∀ f ∈ fields, PlainKey f.1) → (∀ f ∈ fields, PlainKeys f.2) → PlainKeys (.mapping fields)

/-- What a mapping of such a tree holds under a key. -/
theorem PlainKeys.get? {c : Document} {name : String} (hd : d.PlainKeys)
    (h : d.get? name = some c) : PlainKey name ∧ c.PlainKeys := by
  cases hd with
  | scalar value => exact nomatch h
  | sequence hitems => exact nomatch h
  | mapping hkeys hvalues =>
    have hmem := Fields.mem_of_get?_eq_some h
    exact ⟨hkeys _ hmem, hvalues _ hmem⟩

theorem PlainKeys.step {c : Document} {s : Segment} (hd : d.PlainKeys)
    (h : d.step? s = some c) : c.PlainKeys := by
  cases s with
  | key name => exact (hd.get? h).2
  | index position =>
    cases hd with
    | scalar value => exact nomatch h
    | mapping hkeys hvalues => exact nomatch h
    | sequence hitems => exact hitems c (List.mem_of_getElem? h)

/-- A key that leads to a node is plain. -/
theorem PlainKeys.key {name : String} (hd : d.PlainKeys) (h : d.Has (p.key name)) :
    PlainKey name := by
  obtain ⟨c, hc⟩ := h
  rw [at?_key] at hc
  obtain ⟨n, hn, hget⟩ := Option.bind_eq_some_iff.1 hc
  have hplain : n.PlainKeys := of_at?_of_step PlainKeys.step hd hn
  exact (hplain.get? hget).1

/-- Every path that leads to a node of such a document is plain. -/
theorem PlainKeys.path (hd : d.PlainKeys) (hp : d.Has p) : p.Plain := by
  intro name hname
  obtain ⟨q, hq⟩ := hp.exists_key hname
  exact hd.key hq

/-- **Places of a document with plain keys are known from the texts of their paths.** -/
theorem PlainKeys.text_inj (hd : d.PlainKeys) (hp : d.Has p) (hq : d.Has q)
    (h : p.text = q.text) : p = q :=
  Path.text_inj (hd.path hp) (hd.path hq) h

/-- A walk never calls its visitor on two places whose paths have one text. -/
theorem PlainKeys.nodup_texts_calls (hd : d.PlainKeys) (hordered : d.Ordered) {σ : Type}
    (limit : Nat) (visit : Path → Document → σ → Progress σ) (s : σ) :
    ((d.walk limit (recording visit) (s, [])).state.2.map fun x => x.1.text).Nodup := by
  have hrun : d.walk limit (recording visit) (s, []) =
      Progress.runAll (Progress.recorded fun x => visit x.1 x.2) (d.nodes limit) (s, []) :=
    walk_eq d limit (s, [])
  have hcalls : (d.walk limit (recording visit) (s, [])).state.2 <+: d.nodes limit := by
    rw [hrun]
    exact Progress.calls_isPrefix _ s
  have hhas : ∀ x ∈ d.nodes limit, d.Has x.1 :=
    fun x hx => ⟨x.2, ((mem_nodes_iff hordered).1 hx).2⟩
  have htexts : ((d.nodes limit).map fun x => x.1.text).Nodup := by
    refine List.pairwise_map.2 ((List.pairwise_map.1 (nodup_paths_nodes hordered limit)).imp_of_mem ?_)
    intro x y hx hy hne htext
    exact hne (hd.text_inj (hhas x hx) (hhas y hy) htext)
  exact htexts.sublist (hcalls.sublist.map _)

/-- **The text of a path tells the path**, of any length, as long as its keys
are plain: not empty, and without a point or an opening bracket. So a walk
over a document with plain keys calls its visitor on places whose texts are
all different, whatever the visitor and wherever it halts, and a finding that
points into such a document, of a rule that is about nodes, has the text of
one node's path and of no other. -/
theorem texts_tell_places :
    (∀ p q : Path, p.Plain → q.Plain → p.text = q.text → p = q) ∧
    ∀ d : Document, d.Ordered → d.PlainKeys →
      (∀ (σ : Type) (limit : Nat) (visit : Path → Document → σ → Progress σ) (s : σ),
        ((d.walk limit (recording visit) (s, [])).state.2.map fun x => x.1.text).Nodup) ∧
      ∀ (f : Finding) (s : Subject) (rule : Rule), f.PointsInto d s → f.code = rule.code →
        rule.target? = some .node → ∃! p : Path, f.path = some p.text ∧ d.Has p := by
  refine ⟨fun p q => Path.text_inj, fun d hordered hd => ⟨fun σ => ?walks, ?findings⟩⟩
  case walks => exact hd.nodup_texts_calls hordered
  case findings =>
    intro f s rule hf hcode htarget
    obtain ⟨p, hpath, hplace⟩ := hf.place
    have hp : d.Has p := hplace rule .node hcode htarget
    refine ⟨p, ⟨hpath, hp⟩, ?_⟩
    rintro q ⟨hq, hhas⟩
    have htext : q.text = p.text := Option.some.inj (hq.symm.trans hpath)
    exact hd.text_inj hhas hp htext

/-- Keys that hold closing brackets and look like positions, above a quantity
that is none. -/
def bracketKeys : Document :=
  .mapping [("0]", .sequence [.mapping [("resources",
    .mapping [("requests", .mapping [("cpu", .string "half")])])], .null]), ("1", .null)]

/-- The path of that quantity. -/
def halfPath : Path :=
  ⟨[.key "0]", .index 0, .key "resources", .key "requests", .key "cpu"]⟩

/-- Two plain paths have texts of their own, a walk over all of it meets
different texts, and the finding on the quantity has the text of one path. -/
theorem texts_tell_places_bracketKeys :
    (Path.ofKeys ["0]", "1"]).text ≠ (⟨[.key "0]", .index 1]⟩ : Path).text ∧
    ((bracketKeys.walk 64 (recording fun _ _ n => .goOn (n + 1)) (0, [])).state.2.map
      fun x => x.1.text).Nodup ∧
    (bracketKeys.walk 64 (recording fun _ _ n => .goOn (n + 1)) (0, [])).state.2.length = 8 ∧
    ((Finding.graded .suspiciousCpuQuantity .warning ⟨"in", none⟩
      "Suspicious CPU value 'half'").atPath halfPath).PointsInto bracketKeys ⟨"in", none⟩ ∧
    ∃! p : Path, some halfPath.text = some p.text ∧ bracketKeys.Has p := by
  obtain ⟨htell, hdocument⟩ := texts_tell_places
  have hkeys : ∀ name ∈ ["0]", "1"], PlainKey name := by decide
  have hordered : bracketKeys.Ordered := by
    refine .mapping (by decide) (List.forall_mem_cons.2
      ⟨.sequence (List.forall_mem_cons.2 ⟨?_, List.forall_mem_singleton.2 (.scalar _)⟩),
        List.forall_mem_singleton.2 (.scalar _)⟩)
    refine .mapping (by decide) (List.forall_mem_singleton.2 (.mapping (by decide) ?_))
    refine List.forall_mem_singleton.2 (.mapping (by decide) ?_)
    exact List.forall_mem_singleton.2 (.scalar _)
  have hplain : bracketKeys.PlainKeys := by
    refine .mapping (by decide) (List.forall_mem_cons.2
      ⟨.sequence (List.forall_mem_cons.2 ⟨?_, List.forall_mem_singleton.2 (.scalar _)⟩),
        List.forall_mem_singleton.2 (.scalar _)⟩)
    refine .mapping (by decide) (List.forall_mem_singleton.2 (.mapping (by decide) ?_))
    refine List.forall_mem_singleton.2 (.mapping (by decide) ?_)
    exact List.forall_mem_singleton.2 (.scalar _)
  obtain ⟨hwalks, hfindings⟩ := hdocument bracketKeys hordered hplain
  have hpoints : ((Finding.graded .suspiciousCpuQuantity .warning ⟨"in", none⟩
      "Suspicious CPU value 'half'").atPath halfPath).PointsInto bracketKeys ⟨"in", none⟩ :=
    Finding.pointsInto_node rfl ⟨.string "half", rfl⟩ .warning _
  refine ⟨fun htext => ?_, hwalks Nat 64 _ 0, by decide, hpoints,
    hfindings _ _ _ hpoints rfl rfl⟩
  have hpaths : Path.ofKeys ["0]", "1"] = ⟨[.key "0]", .index 1]⟩ := by
    refine htell _ _ (fun name hname => hkeys name ?_) (fun name hname => hkeys name ?_) htext
    · simpa [Path.ofKeys] using hname
    · exact List.mem_cons.2 (.inl (by simpa using hname))
  exact absurd hpaths (by decide)

end Document

end DeployLint
