import DeployLint.Lint
import DeployLint.Proofs.Document.Reading
import DeployLint.Proofs.Yaml.Value

/-!
# Document — the order of entries does not matter

The entries of a mapping may be listed in any order, at any depth, also
within the keys of a YAML mapping: as long as no two keys of one mapping
become the same name, the document is the same (`Reordered.toDocument_eq`,
for YAML and for JSON), and with it all that is asked of it.
-/

namespace DeployLint

/-- Lists that agree position by position are mapped to the same. -/
theorem map_eq_map_of_zip {α β : Type} {f : α → β} {xs ys : List α}
    (hlength : xs.length = ys.length) (h : ∀ x ∈ xs.zip ys, f x.1 = f x.2) :
    xs.map f = ys.map f := by
  have hpositions : List.Forall₂ (fun x y => f x = f y) xs ys :=
    List.forall₂_iff_zip.2 ⟨hlength, fun hmem => h _ hmem⟩
  have hmapped : List.Forall₂ Eq (xs.map f) (ys.map f) :=
    List.forall₂_map_left_iff.2 (List.forall₂_map_right_iff.2 hpositions)
  rwa [List.forall₂_eq_eq_eq] at hmapped

/-- Pairs that are put in another order, and then agree position by position,
make one map, if no name stands twice. -/
theorem Fields.ofPairs_map_eq {α β : Type} {f : β → String × α} {xs zs ys : List β}
    (hnames : ((xs.map f).map Prod.fst).Nodup) (hperm : xs.Perm zs)
    (hlength : zs.length = ys.length) (h : ∀ x ∈ zs.zip ys, f x.1 = f x.2) :
    Fields.ofPairs (xs.map f) = Fields.ofPairs (ys.map f) := by
  rw [Fields.ofPairs_eq_of_perm hnames (hperm.map f), map_eq_map_of_zip hlength h]

/-- A list agrees with itself position by position. -/
theorem eq_of_mem_zip_self {α : Type} {xs : List α} {x : α × α} (hx : x ∈ xs.zip xs) :
    x.1 = x.2 := by
  rw [List.zip, List.zipWith_self] at hx
  obtain ⟨p, -, rfl⟩ := List.mem_map.1 hx
  rfl

/-- What holds of each of two things holds of all entries of their list. -/
theorem forall_mem_pair {α : Type} {P : α → Prop} {x y : α} (hx : P x) (hy : P y) :
    ∀ z ∈ [x, y], P z :=
  List.forall_mem_cons.2 ⟨hx, List.forall_mem_singleton.2 hy⟩

namespace Yaml.Value

/-! ## YAML -/

/-- **Two values that differ only in the order of the pairs of mappings.**
The pairs of a mapping are put in another order, and in their keys and
values mappings may be reordered likewise. -/
inductive Reordered : Value → Value → Prop
  | refl (v : Value) : Reordered v v
  | sequence {vs ws : List Value} : vs.length = ws.length →
      (∀ x ∈ vs.zip ws, Reordered x.1 x.2) → Reordered (.sequence vs) (.sequence ws)
  | mapping {ps rs qs : List (Value × Value)} : ps.Perm rs → rs.length = qs.length →
      (∀ x ∈ rs.zip qs, Reordered x.1.1 x.2.1) → (∀ x ∈ rs.zip qs, Reordered x.1.2 x.2.2) →
      Reordered (.mapping ps) (.mapping qs)
  | tagged (tag : String) {v w : Value} : Reordered v w →
      Reordered (.tagged tag v) (.tagged tag w)

/-- To put the pairs of one mapping in another order is the least of it. -/
theorem Reordered.of_perm {ps qs : List (Value × Value)} (h : ps.Perm qs) :
    Reordered (.mapping ps) (.mapping qs) := by
  refine .mapping h rfl (fun x hx => ?_) fun x hx => ?_
  · rw [eq_of_mem_zip_self hx]
    exact .refl x.2.1
  · rw [eq_of_mem_zip_self hx]
    exact .refl x.2.2

/-- No two keys of a mapping within the value become the same name. -/
def KeysDistinct : Value → Prop := EveryMapping fun ps => (keyTexts ps).Nodup

/-- **Values that differ only in the order of pairs have the same document.** -/
theorem Reordered.toDocument_eq {v w : Value} (h : v.Reordered w) (hkeys : v.KeysDistinct) :
    v.toDocument = w.toDocument := by
  induction h with
  | refl v => rfl
  | @sequence vs ws hlength _ ih =>
    cases hkeys with
    | sequence hitems =>
      have hdocuments : vs.map toDocument = ws.map toDocument := by
        refine map_eq_map_of_zip hlength fun x hx => ih x hx ?_
        exact hitems x.1 (List.of_mem_zip hx).1
      rw [toDocument, toDocument, toDocuments_eq_map, toDocuments_eq_map, hdocuments]
  | @mapping ps rs qs hperm hlength _ _ ihkey ihvalue =>
    cases hkeys with
    | mapping hnodup hpairkeys hpairvalues =>
      rw [← map_fst_toFields, toFields_eq_map] at hnodup
      rw [toDocument, toDocument, toFields_eq_map, toFields_eq_map]
      refine congrArg Document.mapping (Fields.ofPairs_map_eq hnodup hperm hlength fun x hx => ?_)
      -- the keys become one name because they are reordered themselves
      have hmem : x.1 ∈ ps := hperm.mem_iff.2 (List.of_mem_zip hx).1
      have hname : x.1.1.keyText = x.2.1.keyText :=
        congrArg Document.text (ihkey x hx (hpairkeys x.1 hmem))
      rw [hname, ihvalue x hx (hpairvalues x.1 hmem)]
  | tagged tag _ ih =>
    cases hkeys with
    | tagged _ hv => exact ih hv

end Yaml.Value

namespace Json

/-! ## JSON -/

/-- Two JSON values that differ only in the order of the members of objects. -/
inductive Reordered : Json → Json → Prop
  | refl (j : Json) : Reordered j j
  | array {js ks : List Json} : js.length = ks.length →
      (∀ x ∈ js.zip ks, Reordered x.1 x.2) → Reordered (.array js) (.array ks)
  | object {ms rs ns : List (String × Json)} : ms.Perm rs → rs.length = ns.length →
      (∀ x ∈ rs.zip ns, x.1.1 = x.2.1) → (∀ x ∈ rs.zip ns, Reordered x.1.2 x.2.2) →
      Reordered (.object ms) (.object ns)

/-- To put the members of one object in another order is the least of it. -/
theorem Reordered.of_perm {ms ns : List (String × Json)} (h : ms.Perm ns) :
    Reordered (.object ms) (.object ns) := by
  refine .object h rfl (fun x hx => ?_) fun x hx => ?_
  · rw [eq_of_mem_zip_self hx]
  · rw [eq_of_mem_zip_self hx]
    exact .refl x.2.2

/-- No two members of an object within the value have the same name. -/
inductive NamesDistinct : Json → Prop
  | null : NamesDistinct null
  | bool (b : Bool) : NamesDistinct (bool b)
  | int (n : Int) : NamesDistinct (int n)
  | float (x : Float) : NamesDistinct (float x)
  | string (s : String) : NamesDistinct (string s)
  | array {js : List Json} : (∀ j ∈ js, NamesDistinct j) → NamesDistinct (array js)
  | object {ms : List (String × Json)} : (ms.map Prod.fst).Nodup →
      (∀ m ∈ ms, NamesDistinct m.2) → NamesDistinct (object ms)

/-- **JSON values that differ only in the order of members have the same document.** -/
theorem Reordered.toDocument_eq {j k : Json} (h : j.Reordered k) (hnames : j.NamesDistinct) :
    j.toDocument = k.toDocument := by
  induction h with
  | refl j => rfl
  | @array js ks hlength _ ih =>
    cases hnames with
    | array hitems =>
      have hdocuments : js.map toDocument = ks.map toDocument := by
        refine map_eq_map_of_zip hlength fun x hx => ih x hx ?_
        exact hitems x.1 (List.of_mem_zip hx).1
      rw [toDocument, toDocument, toItems_eq_map, toItems_eq_map, hdocuments]
  | @object ms rs ns hperm hlength hsame _ ih =>
    cases hnames with
    | object hnodup hmembers =>
      rw [toDocument, toDocument, toFields_eq_map, toFields_eq_map]
      refine congrArg Document.mapping (Fields.ofPairs_map_eq ?_ hperm hlength fun x hx => ?_)
      · rw [List.map_map]
        exact hnodup
      · have hmem : x.1 ∈ ms := hperm.mem_iff.2 (List.of_mem_zip hx).1
        rw [hsame x hx, ih x hx (hmembers x.1 hmem)]

end Json

/-! ## Both -/

namespace Document

/-- Two documents are one, and are dealt with alike: what they request is the
same, and so is what is found in them. -/
structure Alike (d e : Document) : Prop where
  same : d = e
  totals : ∀ depth, Totals.ofDocument d depth = Totals.ofDocument e depth
  findings : ∀ c subject, Lint.resource c ⟨d, subject⟩ = Lint.resource c ⟨e, subject⟩

theorem Alike.of_eq {d e : Document} (h : d = e) : Alike d e where
  same := h
  totals := fun depth => by rw [h]
  findings := fun c subject => by rw [h]

/-- **The order in which a source lists the entries of its mappings does not
matter.** Sources that differ in nothing else are dealt with alike, whether
they are YAML or JSON; and in the document of any source all mappings have
ascending names. -/
theorem alike_of_reordered :
    (∀ v w : Yaml.Value, v.Reordered w → v.KeysDistinct → Alike v.toDocument w.toDocument) ∧
    (∀ j k : Json, j.Reordered k → j.NamesDistinct → Alike j.toDocument k.toDocument) ∧
    (∀ v : Yaml.Value, v.toDocument.Ordered) ∧ ∀ j : Json, j.toDocument.Ordered := by
  refine ⟨fun v w h hkeys => ?yaml, fun j k h hnames => ?json, ?ordered, ?orderedJson⟩
  case yaml => exact .of_eq (h.toDocument_eq hkeys)
  case json => exact .of_eq (h.toDocument_eq hnames)
  case ordered => exact Yaml.Value.ordered_toDocument
  case orderedJson => exact Json.ordered_toDocument

/-- Two pairs change places, and so do those of the mapping that is the key
of one of them, under a tag. -/
theorem alike_swapped :
    Alike
      (Yaml.Value.mapping
        [(.int 1, .bool true),
          (.tagged "t" (.mapping [(.null, .string "a"), (.string "b", .int 2)]), .null)]).toDocument
      (Yaml.Value.mapping
        [(.tagged "t" (.mapping [(.string "b", .int 2), (.null, .string "a")]), .null),
          (.int 1, .bool true)]).toDocument ∧
    Alike
      (Json.array
        [.object [("x", .null), ("a", .object [("y", .int 1), ("b", .int 2)])]]).toDocument
      (Json.array
        [.object [("a", .object [("b", .int 2), ("y", .int 1)]), ("x", .null)]]).toDocument := by
  obtain ⟨hyaml, hjson, -, -⟩ := alike_of_reordered
  refine ⟨hyaml _ _ ?_ ?_, hjson _ _ ?_ ?_⟩
  · have hkey : (Yaml.Value.mapping [(.null, .string "a"), (.string "b", .int 2)]).Reordered
        (.mapping [(.string "b", .int 2), (.null, .string "a")]) := .of_perm (.swap _ _ _)
    refine .mapping (.swap _ _ _) rfl ?_ ?_
    · exact forall_mem_pair (.tagged "t" hkey) (.refl _)
    · exact forall_mem_pair (.refl _) (.refl _)
  · refine .mapping (by decide +kernel) ?_ (forall_mem_pair (.bool true) .null)
    refine forall_mem_pair (.int 1) (.tagged "t" ?_)
    exact .mapping (by decide +kernel) (forall_mem_pair .null (.string "b"))
      (forall_mem_pair (.string "a") (.int 2))
  · have hmember : (Json.object [("y", .int 1), ("b", .int 2)]).Reordered
        (.object [("b", .int 2), ("y", .int 1)]) := .of_perm (.swap _ _ _)
    refine .array rfl (List.forall_mem_singleton.2 (.object (.swap _ _ _) rfl ?_ ?_))
    · exact forall_mem_pair rfl rfl
    · exact forall_mem_pair hmember (.refl _)
  · refine .array (List.forall_mem_singleton.2 ?_)
    refine .object (by decide +kernel) (forall_mem_pair .null ?_)
    exact .object (by decide +kernel) (forall_mem_pair (.int 1) (.int 2))

end Document

end DeployLint
