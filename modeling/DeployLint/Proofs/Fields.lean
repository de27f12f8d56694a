import Mathlib.Data.List.Dedup
import Mathlib.Data.List.Induction
import Mathlib.Data.List.Perm.Basic
import DeployLint.Fields

/-!
# Fields — maps and the pairs they are made of

Setting a name keeps the names of a map ascending (`Ascending.insert`). So
what is found in a map is what it holds (`get?_eq_some_iff`), and a map of
pairs is known from the pairs: what it says of a name is what the last pair
of that name says (`get?_ofPairs`), it has as many entries as the pairs have
different names (`length_ofPairs`), and where no name stands twice the order
of the pairs does not matter (`ofPairs_eq_of_perm`).
-/

namespace DeployLint

namespace Fields

variable {α : Type} {name : String} {value : α} {fields : Fields α}

/-- The names of a map ascend, so that none stands twice. -/
def Ascending (fields : Fields α) : Prop := fields.names.Pairwise (· < ·)

instance (fields : Fields α) : Decidable fields.Ascending :=
  inferInstanceAs (Decidable (fields.names.Pairwise (· < ·)))

/-! ## What is held and what is found -/

/-- What is found under a name is held. -/
theorem mem_of_get?_eq_some {fields : Fields α} {name : String} {value : α}
    (h : fields.get? name = some value) : (name, value) ∈ fields := by
  induction fields with
  | nil => simp [get?] at h
  | cons f rest ih =>
    obtain ⟨n, v⟩ := f
    rw [get?] at h
    split at h
    · rename_i heq
      rw [heq, Option.some.inj h]
      exact List.mem_cons_self
    · exact List.mem_cons_of_mem _ (ih h)

/-- A name that is held leads to a value. -/
theorem exists_get?_of_mem_names {fields : Fields α} {name : String} (h : name ∈ fields.names) :
    ∃ value, fields.get? name = some value := by
  induction fields with
  | nil => exact absurd h List.not_mem_nil
  | cons f rest ih =>
    obtain ⟨n, v⟩ := f
    rw [get?]
    split
    · exact ⟨v, rfl⟩
    · rename_i hne
      rcases List.mem_cons.1 h with heq | hrest
      · exact absurd heq hne
      · exact ih hrest

/-- **Where names ascend, what is held is what is found.** -/
theorem get?_eq_some_iff {fields : Fields α} (h : fields.Ascending) {name : String} {value : α} :
    fields.get? name = some value ↔ (name, value) ∈ fields := by
  refine ⟨mem_of_get?_eq_some, fun hmem => ?_⟩
  induction fields with
  | nil => simp at hmem
  | cons f rest ih =>
    obtain ⟨n, v⟩ := f
    obtain ⟨hfirst, hrest⟩ := List.pairwise_cons.1 h
    rw [get?]
    rcases List.mem_cons.1 hmem with heq | hmem'
    · obtain ⟨rfl, rfl⟩ := Prod.mk.inj heq
      rw [if_pos rfl]
    · have hlt : n < name := hfirst name (List.mem_map_of_mem (f := Prod.fst) hmem')
      have hne : name ≠ n := fun heq => String.lt_irrefl n (heq ▸ hlt)
      rw [if_neg hne, ih hrest hmem']

/-! ## Setting a name -/

/-- Setting a name brings in nothing but its pair. -/
theorem mem_of_mem_insert {f : String × α} (hf : f ∈ fields.insert name value) :
    f = (name, value) ∨ f ∈ fields := by
  induction fields with
  | nil => exact .inl (List.mem_singleton.1 hf)
  | cons g rest ih =>
    rw [insert] at hf
    split at hf
    · exact List.mem_cons.1 hf
    · split at hf
      · exact (List.mem_cons.1 hf).imp_right (List.mem_cons_of_mem g)
      · rcases List.mem_cons.1 hf with rfl | hrest
        · exact .inr List.mem_cons_self
        · exact (ih hrest).imp_right (List.mem_cons_of_mem g)

/-- A name that is set stands for itself, beside those that were there. -/
theorem mem_names_insert {other : String} :
    other ∈ (fields.insert name value).names ↔ other = name ∨ other ∈ fields.names := by
  induction fields with
  | nil => exact List.mem_cons
  | cons g rest ih =>
    obtain ⟨n, v⟩ := g
    rw [insert]
    split
    · exact List.mem_cons
    · split
      · rename_i heq
        simp only [names, List.map_cons, List.mem_cons, heq, or_self_left]
      · simp only [names, List.map_cons, List.mem_cons] at ih ⊢
        rw [ih, or_left_comm]

/-- A name that was not there is one more. -/
theorem insert_perm (h : name ∉ fields.names) :
    (fields.insert name value).Perm ((name, value) :: fields) := by
  induction fields with
  | nil => exact .refl _
  | cons g rest ih =>
    obtain ⟨n, v⟩ := g
    have hne : name ≠ n := List.ne_of_not_mem_cons h
    have hrest : name ∉ names rest := List.not_mem_of_not_mem_cons h
    rw [insert, if_neg hne]
    split
    · exact .refl _
    · exact ((ih hrest).cons (n, v)).trans (.swap (name, value) (n, v) rest)

/-- **Setting a name keeps the names ascending.** -/
theorem Ascending.insert (h : fields.Ascending) : (fields.insert name value).Ascending := by
  induction fields with
  | nil => exact List.pairwise_singleton _ name
  | cons g rest ih =>
    obtain ⟨n, v⟩ := g
    obtain ⟨hfirst, hrest⟩ := List.pairwise_cons.1 h
    rw [Fields.insert]
    split
    · rename_i hbefore
      refine List.pairwise_cons.2 ⟨fun m hm => ?_, h⟩
      rcases List.mem_cons.1 hm with rfl | hm
      · exact hbefore
      · exact String.lt_trans hbefore (hfirst m hm)
    · rename_i hnot
      split
      · rename_i heq
        exact List.pairwise_cons.2 ⟨heq ▸ hfirst, hrest⟩
      · rename_i hne
        -- the name goes behind `n`, which stays before all that follows
        have hbehind : n < name := Std.lt_of_le_of_ne (Std.not_lt.1 hnot) (Ne.symm hne)
        refine List.pairwise_cons.2 ⟨fun m hm => ?_, ih hrest⟩
        rcases mem_names_insert.1 hm with rfl | hm
        · exact hbehind
        · exact hfirst m hm

/-! ## Maps of pairs -/

variable {pairs : List (String × α)}

/-- The last pair is the one that was set last. -/
theorem ofPairs_concat (pairs : List (String × α)) (p : String × α) :
    ofPairs (pairs ++ [p]) = (ofPairs pairs).insert p.1 p.2 := by
  rw [ofPairs, List.foldl_concat, ← ofPairs]

/-- A map of pairs has ascending names, and holds nothing but the pairs. -/
theorem ofPairs_spec (pairs : List (String × α)) :
    (ofPairs pairs).Ascending ∧ ∀ f ∈ ofPairs pairs, f ∈ pairs := by
  induction pairs using List.reverseRecOn with
  | nil => exact ⟨List.Pairwise.nil, fun f hf => hf⟩
  | append_singleton rest p ih =>
    obtain ⟨hascending, hmem⟩ := ih
    rw [ofPairs_concat]
    refine ⟨hascending.insert, fun f hf => ?_⟩
    rcases mem_of_mem_insert hf with rfl | hf
    · exact List.mem_append_right rest List.mem_cons_self
    · exact List.mem_append_left [p] (hmem f hf)

/-- The names of a map of pairs are those of the pairs. -/
theorem mem_names_ofPairs : name ∈ (ofPairs pairs).names ↔ name ∈ pairs.map Prod.fst := by
  induction pairs using List.reverseRecOn with
  | nil => exact Iff.rfl
  | append_singleton rest p ih =>
    rw [ofPairs_concat, mem_names_insert, ih, List.map_append, List.mem_append, or_comm]
    exact or_congr_right List.mem_singleton.symm

/-- **What a map of pairs says of a name is what the last pair of that name says.** -/
theorem get?_ofPairs (pairs : List (String × α)) (name : String) :
    (ofPairs pairs).get? name = (pairs.reverse.find? fun p => p.1 == name).map Prod.snd := by
  induction pairs using List.reverseRecOn with
  | nil => rfl
  | append_singleton rest p ih =>
    rw [ofPairs_concat, List.reverse_concat, List.find?_cons]
    by_cases heq : name = p.1
    · rw [heq, get?_insert_self, beq_self_eq_true]
      rfl
    · rw [get?_insert_of_ne heq, ih, beq_false_of_ne (Ne.symm heq)]

/-- **A map of pairs has as many entries as the pairs have different names.** -/
theorem length_ofPairs (pairs : List (String × α)) :
    (ofPairs pairs).length = (pairs.map Prod.fst).dedup.length := by
  have hnodup : (ofPairs pairs).names.Nodup := (ofPairs_spec pairs).1.imp String.ne_of_lt
  have hnames : (ofPairs pairs).names.Perm (pairs.map Prod.fst).dedup := by
    refine (List.perm_ext_iff_of_nodup hnodup (List.nodup_dedup _)).2 fun name => ?_
    rw [List.mem_dedup, mem_names_ofPairs]
  rw [← hnames.length_eq, names, List.length_map]

/-- So none is lost exactly where no name stands twice. -/
theorem length_ofPairs_eq_iff :
    (ofPairs pairs).length = pairs.length ↔ (pairs.map Prod.fst).Nodup := by
  rw [length_ofPairs, ← List.length_map Prod.fst]
  constructor
  · intro h
    exact List.dedup_eq_self.1 ((List.dedup_sublist _).eq_of_length h)
  · intro h
    rw [List.dedup_eq_self.2 h]

/-- Where no name stands twice, a map of pairs holds them all. -/
theorem ofPairs_perm (h : (pairs.map Prod.fst).Nodup) : (ofPairs pairs).Perm pairs := by
  induction pairs using List.reverseRecOn with
  | nil => exact .refl _
  | append_singleton rest p ih =>
    have hcons : ((p :: rest).map Prod.fst).Nodup :=
      ((List.perm_append_singleton p rest).map Prod.fst).nodup_iff.1 h
    obtain ⟨hnew, hrest⟩ := List.nodup_cons.1 hcons
    have hfresh : p.1 ∉ (ofPairs rest).names := fun hmem => hnew (mem_names_ofPairs.1 hmem)
    have hset : ((ofPairs rest).insert p.1 p.2).Perm (p :: rest) :=
      (insert_perm hfresh).trans ((ih hrest).cons p)
    rw [ofPairs_concat]
    exact hset.trans (List.perm_append_singleton p rest).symm

/-- Two maps with the same entries are one. -/
theorem Ascending.eq_of_perm {other : Fields α} (h : fields.Ascending) (hother : other.Ascending)
    (hperm : fields.Perm other) : fields = other := by
  refine hperm.eq_of_pairwise (fun f g _ _ hfg hgf => ?_) (List.pairwise_map.1 h)
    (List.pairwise_map.1 hother)
  exact absurd (String.lt_trans hfg hgf) (String.lt_irrefl f.1)

/-- **Where no name stands twice, the order of the pairs does not matter.** -/
theorem ofPairs_eq_of_perm {others : List (String × α)} (h : (pairs.map Prod.fst).Nodup)
    (hperm : pairs.Perm others) : ofPairs pairs = ofPairs others := by
  have hothers : (others.map Prod.fst).Nodup := (hperm.map Prod.fst).nodup_iff.1 h
  refine (ofPairs_spec pairs).1.eq_of_perm (ofPairs_spec others).1 ?_
  exact (ofPairs_perm h).trans (hperm.trans (ofPairs_perm hothers).symm)

/-- **Where names ascend, a map is the map of its own pairs.** -/
theorem ofPairs_eq_self (h : fields.Ascending) : ofPairs fields = fields :=
  (ofPairs_spec fields).1.eq_of_perm h (ofPairs_perm (h.imp String.ne_of_lt))

end Fields

end DeployLint
