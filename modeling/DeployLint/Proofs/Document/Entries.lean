import DeployLint.Proofs.Document.Places
import DeployLint.Proofs.Document.Reading
import DeployLint.Proofs.Yaml.Keys

/-!
# Document — which entries of a text are kept

A document is read from a value, whose mappings have keys of any kind. A path
leads to the same place in both (`at?_toDocument`). There a mapping of the
document has one entry for each name that a key of the value's mapping
becomes, with the value of the last such key: pairs are lost exactly where
two keys become one name.
-/

namespace DeployLint

namespace Yaml

/-! ## Places in a value -/

namespace Value

/-- The pairs of a mapping, tags passed over. -/
def pairs? : Value → Option (List (Value × Value))
  | .mapping ps => some ps
  | .tagged _ v => v.pairs?
  | _ => none

/-- The items of a sequence, tags passed over. -/
def items? : Value → Option (List Value)
  | .sequence vs => some vs
  | .tagged _ v => v.items?
  | _ => none

/-- The value of the last of the pairs whose key becomes a name. -/
def lastOf? (ps : List (Value × Value)) (name : String) : Option Value :=
  (ps.reverse.find? fun p => p.1.keyText == name).map Prod.snd

/-- What one step of a path leads to. -/
def step? (v : Value) : Segment → Option Value
  | .key name => v.pairs?.bind fun ps => lastOf? ps name
  | .index position => v.items?.bind fun vs => vs[position]?

/-- What a path leads to. -/
def at? (v : Value) (p : Path) : Option Value := p.segments.foldlM step? v

theorem get?_ofPairs_toFields (ps : List (Value × Value)) (name : String) :
    (Fields.ofPairs (toFields ps)).get? name = (lastOf? ps name).map toDocument := by
  rw [Fields.get?_ofPairs, toFields_eq_map, ← List.map_reverse, List.find?_map, lastOf?,
    Option.map_map, Option.map_map]
  rfl

theorem step?_toDocument (s : Segment) : ∀ v : Value,
    v.toDocument.step? s = (v.step? s).map toDocument
  | .tagged _ v => step?_toDocument s v
  | .mapping ps => by
    cases s with
    | key name => exact get?_ofPairs_toFields ps name
    | index position => rfl
  | .sequence vs => by
    cases s with
    | key name => rfl
    | index position =>
      rw [toDocument, toDocuments_eq_map]
      exact List.getElem?_map
  | .null | .bool _ | .int _ | .float _ | .string _ => by cases s <;> rfl

/-- **A path leads to the same place in a value and in its document.** -/
theorem at?_toDocument (v : Value) (p : Path) :
    v.toDocument.at? p = (v.at? p).map toDocument := by
  obtain ⟨steps⟩ := p
  rw [Document.at?, at?]
  induction steps generalizing v with
  | nil => rfl
  | cons s steps ih =>
    rw [List.foldlM_cons, List.foldlM_cons, step?_toDocument]
    cases v.step? s with
    | none => rfl
    | some w => exact ih w

/-- Only a mapping becomes a mapping. -/
theorem pairs?_of_toDocument {fields : Fields Document} : ∀ {v : Value},
    v.toDocument = .mapping fields →
      ∃ ps, v.pairs? = some ps ∧ fields = Fields.ofPairs (toFields ps)
  | .mapping ps, h => ⟨ps, rfl, (Document.mapping.inj h).symm⟩
  | .tagged _ v, h => pairs?_of_toDocument (v := v) h

/-! ## Every mapping, by its place -/

variable {P : List (Value × Value) → Prop}

theorem EveryMapping.pairs {v : Value} {ps : List (Value × Value)} (h : v.EveryMapping P)
    (hps : v.pairs? = some ps) : P ps ∧ ∀ p ∈ ps, p.2.EveryMapping P := by
  induction h with
  | mapping hpairs _ hvalues _ _ =>
    obtain rfl := Option.some.inj hps
    exact ⟨hpairs, hvalues⟩
  | tagged _ _ ih => exact ih hps
  | _ => cases hps

theorem EveryMapping.items {v : Value} {vs : List Value} (h : v.EveryMapping P)
    (hvs : v.items? = some vs) : ∀ w ∈ vs, w.EveryMapping P := by
  induction h with
  | sequence hitems _ =>
    obtain rfl := Option.some.inj hvs
    exact hitems
  | tagged _ _ ih => exact ih hvs
  | _ => cases hvs

theorem EveryMapping.step {v w : Value} {s : Segment} (h : v.EveryMapping P)
    (hs : v.step? s = some w) : w.EveryMapping P := by
  cases s with
  | key name =>
    obtain ⟨ps, hps, hlast⟩ := Option.bind_eq_some_iff.1 hs
    obtain ⟨p, hp, rfl⟩ := Option.map_eq_some_iff.1 hlast
    exact (h.pairs hps).2 p (List.mem_reverse.1 (List.mem_of_find?_eq_some hp))
  | index position =>
    obtain ⟨vs, hvs, hitem⟩ := Option.bind_eq_some_iff.1 hs
    exact h.items hvs w (List.mem_of_getElem? hitem)

/-- What holds of every mapping of a value holds of those that paths lead to. -/
theorem EveryMapping.atPath {v w : Value} {p : Path} (h : v.EveryMapping P) (hp : v.at? p = some w) :
    w.EveryMapping P := by
  obtain ⟨steps⟩ := p
  rw [at?] at hp
  induction steps generalizing v with
  | nil =>
    obtain rfl := Option.some.inj hp
    exact h
  | cons s steps ih =>
    rw [List.foldlM_cons] at hp
    obtain ⟨u, hs, hrest⟩ := Option.bind_eq_some_iff.1 hp
    exact ih (h.step hs) hrest

end Value

/-! ## The value of a text -/

/-- In the value of a text the keys of every mapping are apart. -/
theorem keysApart_of_readValue {text : String} {v : Value} (h : readValue text = .ok v) :
    v.EveryMapping KeysApart := by
  unfold readValue at h
  split at h
  · cases h
    exact .null
  · obtain ⟨w, hw, hrest⟩ := bind_eq_ok_iff.1 h
    split at hrest
    · cases hrest
      exact RawDocument.keysApart_of_compose hw
    · cases hrest

end Yaml

namespace Document

open Yaml (Value KeysApart)

/-- **How a mapping of a text is kept**: the pairs it has there, whose keys
are apart, and its entries in the document. -/
structure KeptAs (ps : List (Value × Value)) (fields : Fields Document) : Prop where
  apart : KeysApart ps
  /-- There are as many entries as names that the keys become. -/
  count : fields.length = (Value.keyTexts ps).dedup.length
  /-- Each name has the value of the last pair whose key becomes it. -/
  last : ∀ name, fields.get? name = (Value.lastOf? ps name).map Value.toDocument
  /-- No pair is lost exactly if no two keys become one name. -/
  all_iff : fields.length = ps.length ↔ (Value.keyTexts ps).Nodup
  /-- In particular none is lost if all keys are texts. -/
  all_of_strings : (∀ p ∈ ps, ∃ s, p.1 = .string s) → fields.length = ps.length

/-- Texts that are apart become different names. -/
theorem nodup_keyTexts {ps : List (Value × Value)} (hapart : KeysApart ps)
    (hstrings : ∀ p ∈ ps, ∃ s, p.1 = .string s) : (Value.keyTexts ps).Nodup := by
  refine List.pairwise_map.2 (hapart.imp_of_mem fun {p q} hp hq hne => ?_)
  obtain ⟨s, hs⟩ := hstrings p hp
  obtain ⟨t, ht⟩ := hstrings q hq
  rw [hs, ht, Value.same, beq_eq_false_iff_ne] at hne
  rw [hs, ht, Value.keyText_string, Value.keyText_string]
  exact hne

/-- A map of the fields of pairs keeps them so. -/
theorem keptAs_ofPairs {ps : List (Value × Value)} (h : KeysApart ps) :
    KeptAs ps (Fields.ofPairs (Value.toFields ps)) := by
  have hall : (Fields.ofPairs (Value.toFields ps)).length = ps.length ↔
      (Value.keyTexts ps).Nodup := by
    have hlength : (Value.toFields ps).length = ps.length := by
      rw [Value.toFields_eq_map, List.length_map]
    rw [← hlength, Fields.length_ofPairs_eq_iff, Value.map_fst_toFields]
  constructor
  case apart => exact h
  case count => rw [Fields.length_ofPairs, Value.map_fst_toFields]
  case last => exact Value.get?_ofPairs_toFields ps
  case all_iff => exact hall
  case all_of_strings => exact fun hstrings => hall.2 (nodup_keyTexts h hstrings)

/-- **A mapping of a document has one entry for each name that a key of its
mapping in the text becomes.** Both are reached by the same path. So an
entry is lost exactly where a later key, which is not the same, becomes the
same name. -/
theorem kept_of_parse {text : String} {d : Document} (h : parse text = .ok d) :
    ∃ v, Yaml.readValue text = .ok v ∧ v.toDocument = d ∧
      ∀ (p : Path) (fields : Fields Document), d.at? p = some (.mapping fields) →
        ∃ w ps, v.at? p = some w ∧ w.pairs? = some ps ∧ KeptAs ps fields := by
  obtain ⟨v, hv, rfl⟩ := parse_eq_ok_iff.1 h
  refine ⟨v, hv, rfl, fun p fields hp => ?_⟩
  rw [Value.at?_toDocument] at hp
  obtain ⟨w, hw, hdocument⟩ := Option.map_eq_some_iff.1 hp
  obtain ⟨ps, hps, rfl⟩ := Value.pairs?_of_toDocument hdocument
  have hapart : KeysApart ps := (((Yaml.keysApart_of_readValue hv).atPath hw).pairs hps).1
  exact ⟨w, ps, hw, hps, keptAs_ofPairs hapart⟩

/-- Three keys, of which two become the same name: two entries. -/
theorem kept_of_parse_nested :
    ∃ d fields, parse "a: !t\n  1: x\n  \"1\": y\n  b: z\n" = .ok d ∧
      d.at? (.ofKeys ["a"]) = some (.mapping fields) ∧ fields.length = 2 ∧
      ∃ v w ps, Yaml.readValue "a: !t\n  1: x\n  \"1\": y\n  b: z\n" = .ok v ∧
        v.at? (.ofKeys ["a"]) = some w ∧ w.pairs? = some ps ∧ KeptAs ps fields := by
  have hread : (parse "a: !t\n  1: x\n  \"1\": y\n  b: z\n").toOption.any (fun d =>
      ((d.at? (.ofKeys ["a"])).bind asMapping?).any fun fields => fields.length == 2) = true := by
    decide +kernel
  obtain ⟨d, hd, htwo⟩ := exists_ok_of_any hread
  obtain ⟨fields, hfields, hlength⟩ := (Option.any_eq_true _ _).1 htwo
  obtain ⟨n, hn, hmapping⟩ := Option.bind_eq_some_iff.1 hfields
  obtain rfl := asMapping?_eq_some_iff.1 hmapping
  obtain ⟨v, hv, -, hkept⟩ := kept_of_parse hd
  obtain ⟨w, ps, hw, hps, hkeptAs⟩ := hkept (.ofKeys ["a"]) fields hn
  exact ⟨d, fields, hd, hn, beq_iff_eq.1 hlength, v, w, ps, hv, hw, hps, hkeptAs⟩

/-- **Mappings with keys of more than one kind may lose entries**: an integer
and the text that writes it become one name. -/
theorem entry_lost :
    ¬ ∀ (text : String) (d : Document) (v : Value), parse text = .ok d →
      Yaml.readValue text = .ok v → ∀ (p : Path) (fields : Fields Document) (w : Value)
        (ps : List (Value × Value)), d.at? p = some (.mapping fields) → v.at? p = some w →
          w.pairs? = some ps → fields.length = ps.length := by
  intro hall
  have hread : (Yaml.readValue "1: a\n\"1\": b\n").toOption.any (fun v =>
      v.pairs?.any (fun ps => ps.length == 2) &&
        v.toDocument.asMapping?.any fun fields => fields.length == 1) = true := by
    decide +kernel
  obtain ⟨v, hv, hlengths⟩ := exists_ok_of_any hread
  rw [Bool.and_eq_true, Option.any_eq_true, Option.any_eq_true] at hlengths
  obtain ⟨⟨ps, hps, htwo⟩, fields, hfields, hone⟩ := hlengths
  have hparse : parse "1: a\n\"1\": b\n" = .ok (.mapping fields) :=
    parse_eq_ok_iff.2 ⟨v, hv, asMapping?_eq_some_iff.1 hfields⟩
  have hequal : fields.length = ps.length := hall _ _ _ hparse hv .root fields v ps rfl rfl hps
  rw [beq_iff_eq] at htwo hone
  omega

end Document

end DeployLint
