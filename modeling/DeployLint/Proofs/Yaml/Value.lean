import DeployLint.Yaml.Document

/-!
# YAML — values and the documents they become

A key becomes the name that its document shows (`keyText`), a mapping the
map of its pairs under these names, and a list the list of what its values
become. What is asked of all mappings of a value is asked of those within
its keys too (`EveryMapping`).
-/

namespace DeployLint

namespace Yaml

namespace Value

/-- The name that a key becomes. -/
def keyText (k : Value) : String := k.toDocument.text

/-- The names that the keys of pairs become, in the order of the pairs. -/
def keyTexts (ps : List (Value × Value)) : List String := ps.map fun p => p.1.keyText

theorem keyText_string (s : String) : (string s).keyText = s := rfl

theorem toDocuments_eq_map (vs : List Value) : toDocuments vs = vs.map toDocument := by
  induction vs with
  | nil => rfl
  | cons v vs ih => rw [toDocuments, ih, List.map_cons]

theorem toFields_eq_map (ps : List (Value × Value)) :
    toFields ps = ps.map fun p => (p.1.keyText, p.2.toDocument) := by
  induction ps with
  | nil => rfl
  | cons p ps ih => rw [toFields, ih, List.map_cons, keyText]

/-- The names of the fields are what the keys become. -/
theorem map_fst_toFields (ps : List (Value × Value)) :
    (toFields ps).map Prod.fst = keyTexts ps := by
  rw [toFields_eq_map, List.map_map, keyTexts]
  rfl

/-- Something holds of the pairs of every mapping within a value. -/
inductive EveryMapping (P : List (Value × Value) → Prop) : Value → Prop
  | null : EveryMapping P null
  | bool (b : Bool) : EveryMapping P (bool b)
  | int (n : Int) : EveryMapping P (int n)
  | float (x : Float) : EveryMapping P (float x)
  | string (s : String) : EveryMapping P (string s)
  | sequence {vs : List Value} : (∀ v ∈ vs, EveryMapping P v) → EveryMapping P (sequence vs)
  | mapping {ps : List (Value × Value)} : P ps → (∀ p ∈ ps, EveryMapping P p.1) →
      (∀ p ∈ ps, EveryMapping P p.2) → EveryMapping P (mapping ps)
  | tagged (tag : String) {v : Value} : EveryMapping P v → EveryMapping P (tagged tag v)

end Value

end Yaml

end DeployLint
