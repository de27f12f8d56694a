import DeployLint.Proofs.Document.Places
import DeployLint.Resource.Metadata

/-!
# Resources — what clean metadata means

Three checks look at the head of a resource, each in its own way: at the keys
of the document, at the texts of its version and its kind, and at the text of
its name. Where none of them reports anything, the resource has a version, a
kind, and a name that is a scalar and no empty text (`named_of_clean`). Of
absent values null is the one that they tell apart: its text is that of the
name `null`, which is none for a version or a kind but one that a resource may
have (`checkName_null_name`).
-/

namespace DeployLint

namespace Resource

variable {r : Resource} {limits : NamingLimits}

/-! ## Fields -/

/-- Where no field is missing, each is there. -/
theorem hasKey_of_checkFields_eq_nil (h : r.checkFields = []) {name : String}
    (hname : name ∈ requiredFields) : r.document.hasKey name = true := by
  rw [checkFields, List.append_eq_nil_iff, List.map_eq_nil_iff] at h
  simpa using List.filter_eq_nil_iff.1 h.1 name hname

/-- Where the version is not suspicious, its text looks like one. -/
theorem version_of_checkVersionAndKind_eq_nil (h : r.checkVersionAndKind = []) {version : Document}
    (hversion : r.document.get? "apiVersion" = some version) :
    version.text = "v1" ∨ Text.holds version.text "/" = true := by
  rw [checkVersionAndKind, List.append_eq_nil_iff, apiVersion?, hversion] at h
  have hlooks : (version.text == "v1" || Text.holds version.text "/") = true :=
    Decidable.of_not_not fun hnot => List.cons_ne_nil _ _ (ite_eq_left_iff.1 h.1 hnot)
  rwa [Bool.or_eq_true, beq_iff_eq] at hlooks

/-- Where the kind is not, its text begins with a capital. -/
theorem kind_of_checkVersionAndKind_eq_nil (h : r.checkVersionAndKind = []) {kind : Document}
    (hkind : r.document.get? "kind" = some kind) : isCapitalized kind.text = true := by
  rw [checkVersionAndKind, List.append_eq_nil_iff, hkind] at h
  exact Decidable.of_not_not fun hnot => List.cons_ne_nil _ _ (ite_eq_left_iff.1 h.2 hnot)

/-! ## Names -/

theorem nameFault?_empty (limits : NamingLimits) :
    nameFault? limits "" = some (.missingName, "Resource name is empty") := rfl

/-- The name is looked up in the metadata. -/
theorem name?_eq_bind {metadata : Document}
    (hmetadata : r.document.get? "metadata" = some metadata) :
    r.name? = (metadata.get? "name").bind Document.scalarText? := by
  have hpath : r.document.getPath? ["metadata", "name"] =
      (r.document.get? "metadata").bind fun m => (m.get? "name").bind some := rfl
  rw [name?, hpath, hmetadata, Option.bind_some, Option.bind_fun_some]

/-- **A name without faults is a scalar in the metadata.** -/
theorem exists_name_of_checkName_eq_nil (h : r.checkName limits = []) :
    ∃ fields value, r.document.get? "metadata" = some (.mapping fields) ∧
      Fields.get? "name" fields = some (.scalar value) ∧ nameFault? limits value.text = none := by
  rw [checkName] at h
  split at h
  · exact nomatch h
  · rename_i metadata hmetadata
    split at h
    · rename_i hfault
      cases hname : r.name? with
      -- a name that is not there is looked at as the empty text
      | none =>
        rw [hname, Option.getD_none, nameFault?_empty] at hfault
        exact nomatch hfault
      | some text =>
        rw [hname, Option.getD_some] at hfault
        rw [name?_eq_bind hmetadata] at hname
        obtain ⟨node, hnode, htext⟩ := Option.bind_eq_some_iff.1 hname
        obtain ⟨value, hvalue, rfl⟩ := Option.map_eq_some_iff.1 htext
        obtain rfl : node = .scalar value := Document.asScalar?_eq_some_iff.1 hvalue
        cases metadata with
        | scalar _ => exact nomatch hnode
        | sequence _ => exact nomatch hnode
        | mapping fields => exact ⟨fields, value, hmetadata, hnode, hfault⟩
    · exact nomatch h

/-- **A name that is null passes as the text `null`.** -/
theorem checkName_null_name {fields : Fields Document}
    (hmetadata : r.document.get? "metadata" = some (.mapping fields))
    (hname : Fields.get? "name" fields = some .null) (hlimit : 4 ≤ limits.name) :
    r.checkName limits = [] := by
  have htext : r.name? = some "null" := by
    rw [name?_eq_bind hmetadata]
    exact congrArg (Option.bind · Document.scalarText?) hname
  have hfault : nameFault? limits "null" = none := by
    have hshort : ¬ limits.name < "null".toList.length := Nat.not_lt.2 hlimit
    rw [nameFault?, if_neg (by decide), if_neg hshort, if_neg (by decide), if_neg (by decide)]
  rw [checkName, metadata?, hmetadata, htext, Option.getD_some]
  simp only [hfault]

/-! ## The checks together -/

/-- **Clean metadata means a named resource**, but for a name that is null.
Where the checks of the fields, of the version and the kind and of the name
report nothing, there is a version and a kind, neither of them null, and the
metadata is a mapping with a name that is a scalar and no empty text. That the
name is not null does not follow: of such a name the check of names reports
nothing, as long as four characters are not too many. -/
theorem named_of_clean (r : Resource) (limits : NamingLimits) :
    (r.checkFields = [] → r.checkVersionAndKind = [] → r.checkName limits = [] →
      ∃ version kind fields value,
        r.document.get? "apiVersion" = some version ∧ version ≠ .null ∧
        r.document.get? "kind" = some kind ∧ kind ≠ .null ∧
        r.document.get? "metadata" = some (.mapping fields) ∧
        Fields.get? "name" fields = some (.scalar value) ∧ value ≠ .string "") ∧
    ∀ fields, r.document.get? "metadata" = some (.mapping fields) →
      Fields.get? "name" fields = some .null → 4 ≤ limits.name → r.checkName limits = [] := by
  refine ⟨fun hfields hversion hname => ?_, fun _ => checkName_null_name⟩
  obtain ⟨version, hversion'⟩ :=
    Option.isSome_iff_exists.1 (hasKey_of_checkFields_eq_nil hfields (by decide : "apiVersion" ∈ _))
  obtain ⟨kind, hkind⟩ :=
    Option.isSome_iff_exists.1 (hasKey_of_checkFields_eq_nil hfields (by decide : "kind" ∈ _))
  obtain ⟨fields, value, hmetadata, hvalue, hfault⟩ := exists_name_of_checkName_eq_nil hname
  refine ⟨version, kind, fields, value, hversion', ?_, hkind, ?_, hmetadata, hvalue, ?_⟩
  · rintro rfl
    exact absurd (version_of_checkVersionAndKind_eq_nil hversion hversion') (by decide)
  · rintro rfl
    exact absurd (kind_of_checkVersionAndKind_eq_nil hversion hkind) (by decide)
  · rintro rfl
    exact nomatch (nameFault?_empty limits).symm.trans hfault

/-- A resource whose name is left out behind its key. -/
def nullNamed : Resource where
  subject := { artifact := "in" }
  document :=
    .mapping [("apiVersion", .string "v1"), ("kind", .string "ConfigMap"),
      ("metadata", .mapping [("name", .null)])]

/-- It has a version, a kind and a scalar for its name, and nothing is reported. -/
theorem named_of_clean_nullNamed :
    nullNamed.checkName {} = [] ∧ ∃ version kind fields value,
      nullNamed.document.get? "apiVersion" = some version ∧ version ≠ .null ∧
      nullNamed.document.get? "kind" = some kind ∧ kind ≠ .null ∧
      nullNamed.document.get? "metadata" = some (.mapping fields) ∧
      Fields.get? "name" fields = some (.scalar value) ∧ value ≠ .string "" := by
  obtain ⟨hclean, hnull⟩ := named_of_clean nullNamed {}
  have hname : nullNamed.checkName {} = [] := hnull _ rfl rfl (by decide)
  exact ⟨hname, hclean (by decide) (by decide +kernel) hname⟩

/-- **Clean metadata does not mean that the name is not null.** -/
theorem not_named_of_clean :
    ¬ ∀ (r : Resource) (limits : NamingLimits), r.checkFields = [] → r.checkVersionAndKind = [] →
      r.checkName limits = [] → ∃ version kind fields value,
        r.document.get? "apiVersion" = some version ∧ version ≠ .null ∧
        r.document.get? "kind" = some kind ∧ kind ≠ .null ∧
        r.document.get? "metadata" = some (.mapping fields) ∧
        Fields.get? "name" fields = some (.scalar value) ∧ value ≠ .null ∧ value ≠ .string "" := by
  intro h
  obtain ⟨_, _, fields, value, -, -, -, -, hmetadata, hvalue, hnotNull, -⟩ :=
    h nullNamed {} (by decide) (by decide +kernel) (by decide +kernel)
  obtain rfl := Document.mapping.inj (Option.some.inj hmetadata)
  obtain rfl := Document.scalar.inj (Option.some.inj hvalue)
  exact hnotNull rfl

end Resource

end DeployLint
