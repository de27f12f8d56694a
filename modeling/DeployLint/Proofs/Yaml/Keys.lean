import DeployLint.Proofs.Steps
import DeployLint.Proofs.Yaml.Value

/-!
# YAML — keys that are read are apart

A repeated key is a fault of its mapping, so in a value that is read no later
key of any mapping counts as one with an earlier one (`keysApart_of_compose`).
The argument follows the reading: what a node gives, given what its parts
give (`value_step`, `items_step`, `pairs_step`), and then all depths of
nesting at once.
-/

namespace DeployLint

namespace Yaml

/-! ## Leaves -/

namespace Value

variable {P : List (Value × Value) → Prop}

/-- A value without parts, under a tag or not. -/
inductive Leaf : Value → Prop
  | null : Leaf null
  | bool (b : Bool) : Leaf (bool b)
  | int (n : Int) : Leaf (int n)
  | float (x : Float) : Leaf (float x)
  | string (s : String) : Leaf (string s)
  | tagged (tag : String) {v : Value} : Leaf v → Leaf (tagged tag v)

theorem Leaf.everyMapping {v : Value} (h : v.Leaf) : v.EveryMapping P := by
  induction h with
  | null => exact .null
  | bool b => exact .bool b
  | int n => exact .int n
  | float x => exact .float x
  | string s => exact .string s
  | tagged tag _ ih => exact .tagged tag ih

end Value

theorem leaf_of_plainValue {s : String} {v : Value} (h : plainValue s = .ok v) : v.Leaf := by
  unfold plainValue at h
  split at h
  · cases h
    exact .null
  · split at h
    · cases h
      exact .bool _
    · split at h
      · cases h
        exact .int _
      · cases h
      · split at h
        · cases h
          exact .float _
        · cases h
          exact .string _

theorem leaf_of_untaggedValue {s : String} {style : ScalarStyle} {v : Value}
    (h : untaggedValue s style = .ok v) : v.Leaf := by
  unfold untaggedValue at h
  split at h
  · exact leaf_of_plainValue h
  · cases h
    exact .string s

theorem leaf_of_taggedValue {tag s : String} {v : Value} (h : taggedValue tag s = .ok v) :
    v.Leaf := by
  unfold taggedValue at h
  split at h
  · split at h <;> cases h
    exact .bool _
  · split at h
    · split at h <;> cases h
      exact .int _
    · split at h
      · split at h <;> cases h
        exact .float _
      · split at h
        · split at h <;> cases h
          exact .null
        · cases h
          exact .string s

/-- What a scalar stands for has no parts. -/
theorem leaf_of_scalarValue {tag : Option String} {s : String} {style : ScalarStyle} {v : Value}
    (h : scalarValue tag s style = .ok v) : v.Leaf := by
  unfold scalarValue at h
  split at h
  · obtain ⟨w, hw, rfl⟩ := map_eq_ok_iff.1 h
    exact .tagged _ (leaf_of_untaggedValue hw)
  · exact leaf_of_taggedValue h
  · exact leaf_of_untaggedValue h

/-! ## Nodes -/

/-- No later key of a list of pairs counts as one with an earlier one. -/
def KeysApart (ps : List (Value × Value)) : Prop := ps.Pairwise fun p q => p.1.same q.1 = false

/-- A pair is added whose key does not count as one with any before. -/
theorem keysApart_concat {before : List (Value × Value)} {k v : Value}
    (h : KeysApart before.reverse) (hnew : before.any (fun p => p.1.same k) = false) :
    KeysApart ((k, v) :: before).reverse := by
  rw [KeysApart, List.pairwise_reverse] at h ⊢
  exact List.pairwise_cons.2 ⟨fun p hp => Bool.eq_false_iff.2 (List.any_eq_false.1 hnew p hp), h⟩

theorem everyMapping_underTag {P : List (Value × Value) → Prop} (tag : Option String) {v : Value}
    (h : v.EveryMapping P) : (RawDocument.underTag tag v).EveryMapping P := by
  rw [RawDocument.underTag]
  split
  · exact .tagged _ h
  · exact h

namespace RawDocument

variable {d : RawDocument} {fuel : Nat}

theorem gives_atNode {α : Type} {P : α → Prop} (mark : Mark) (trail : Trail)
    {x : Except ContentFault α} (h : ∀ a, x = .ok a → P a) : Gives (atNode mark trail x) P := by
  cases x with
  | ok a => exact gives_pure (h a rfl)
  | error cause => exact gives_throw _

/-- The nodes that are read with so much fuel have their keys apart. -/
def ValuesApart (d : RawDocument) (fuel : Nat) : Prop :=
  ∀ levels trail place, Gives (d.value levels trail place fuel) fun r =>
    r.1.EveryMapping KeysApart

/-- So have the items of a sequence. -/
def ItemsApart (d : RawDocument) (fuel : Nat) : Prop :=
  ∀ levels trail position place, Gives (d.items levels trail position place fuel) fun r =>
    (Value.sequence r.1).EveryMapping KeysApart

/-- So have the pairs of a mapping, behind pairs that have. -/
def PairsApart (d : RawDocument) (fuel : Nat) : Prop :=
  ∀ levels trail mark before place, (Value.mapping before.reverse).EveryMapping KeysApart →
    Gives (d.pairs levels trail mark before place fuel) fun r =>
      (Value.mapping r.1).EveryMapping KeysApart

theorem value_step (hvalues : d.ValuesApart fuel) (hitems : d.ItemsApart fuel)
    (hpairs : d.PairsApart fuel) : d.ValuesApart (fuel + 1) := by
  intro levels trail place
  rw [value]
  refine gives_bind (gives_any _) ?_
  rintro ⟨part, mark⟩ -
  cases part with
  | repeated target =>
    refine gives_bind (gives_any _) fun _ _ => ?_
    refine gives_bind (hvalues levels trail.repeated target) ?_
    rintro ⟨v, after⟩ h
    exact gives_pure h
  | scalar tag text style =>
    refine gives_bind (gives_atNode mark trail fun v hv => ?_) fun v h => gives_pure h
    exact (leaf_of_scalarValue hv).everyMapping
  | sequenceStart tag =>
    dsimp only
    split
    · exact gives_throw_bind _ _
    · refine gives_bind (hitems (levels - 1) trail 0 (place + 1)) ?_
      rintro ⟨vs, after⟩ h
      exact gives_pure (everyMapping_underTag tag h)
  | mappingStart tag =>
    dsimp only
    split
    · exact gives_throw_bind _ _
    · have hnone : (Value.mapping [].reverse).EveryMapping KeysApart :=
        .mapping List.Pairwise.nil (fun p hp => nomatch hp) fun p hp => nomatch hp
      refine gives_bind (hpairs (levels - 1) trail mark [] (place + 1) hnone) ?_
      rintro ⟨ps, after⟩ h
      exact gives_pure (everyMapping_underTag tag h)
  | nothing => exact gives_pure .null
  | sequenceEnd => exact gives_pure .null
  | mappingEnd => exact gives_pure .null

theorem items_step (hvalues : d.ValuesApart fuel) (hitems : d.ItemsApart fuel) :
    d.ItemsApart (fuel + 1) := by
  have hnone : (Value.sequence []).EveryMapping KeysApart := .sequence fun v hv => nomatch hv
  intro levels trail position place
  rw [items]
  refine gives_bind (gives_any _) ?_
  rintro ⟨part, mark⟩ -
  dsimp only
  split
  · exact gives_pure hnone
  · exact gives_pure hnone
  · refine gives_bind (hvalues levels (trail.item position) place) ?_
    rintro ⟨v, after⟩ hv
    refine gives_bind (hitems levels trail (position + 1) after) ?_
    rintro ⟨vs, behind⟩ hvs
    cases hvs with
    | sequence hvs => exact gives_pure (.sequence (List.forall_mem_cons.2 ⟨hv, hvs⟩))

theorem pairs_step (hvalues : d.ValuesApart fuel) (hpairs : d.PairsApart fuel) :
    d.PairsApart (fuel + 1) := by
  intro levels trail mark before place hbefore
  rw [pairs]
  refine gives_bind (gives_any _) ?_
  rintro ⟨part, _⟩ -
  dsimp only
  split
  · exact gives_pure hbefore
  · exact gives_pure hbefore
  · refine gives_bind (hvalues levels trail place) ?_
    rintro ⟨k, after⟩ hk
    dsimp only
    split
    · exact gives_throw_bind _ _
    · rename_i hnew
      refine gives_bind (hvalues levels _ after) ?_
      rintro ⟨v, behind⟩ hv
      refine hpairs levels trail mark ((k, v) :: before) behind ?_
      cases hbefore with
      | mapping hkeys hfirst hsecond =>
        have hapart : KeysApart ((k, v) :: before).reverse :=
          keysApart_concat hkeys (Bool.eq_false_iff.2 hnew)
        simp only [List.mem_reverse] at hfirst hsecond
        refine .mapping hapart (fun p hp => ?_) fun p hp => ?_
        · rcases List.mem_cons.1 (List.mem_reverse.1 hp) with rfl | hp
          · exact hk
          · exact hfirst p hp
        · rcases List.mem_cons.1 (List.mem_reverse.1 hp) with rfl | hp
          · exact hv
          · exact hsecond p hp

/-- All three, whatever the fuel. -/
theorem apart (d : RawDocument) (fuel : Nat) :
    d.ValuesApart fuel ∧ d.ItemsApart fuel ∧ d.PairsApart fuel := by
  induction fuel with
  | zero =>
    refine ⟨fun _ _ _ => ?_, fun _ _ _ _ => ?_, fun _ _ _ _ _ _ => ?_⟩
    · exact gives_throw _
    · exact gives_throw _
    · exact gives_throw _
  | succ fuel ih =>
    obtain ⟨hvalues, hitems, hpairs⟩ := ih
    exact ⟨value_step hvalues hitems hpairs, items_step hvalues hitems, pairs_step hvalues hpairs⟩

/-- **In a value that is read, the keys of every mapping are apart.** -/
theorem keysApart_of_compose {v : Value} (h : d.compose = .ok v) : v.EveryMapping KeysApart := by
  obtain ⟨⟨⟨w, after⟩, count⟩, hvalue, hrest⟩ := bind_eq_ok_iff.1 h
  have hw : w.EveryMapping KeysApart := (d.apart _).1 _ _ _ _ _ _ hvalue
  dsimp only at hrest
  split at hrest
  · exact nomatch hrest
  · cases hrest
    exact hw

end RawDocument

end Yaml

end DeployLint
