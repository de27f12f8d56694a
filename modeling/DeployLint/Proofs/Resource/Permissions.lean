import Mathlib.Data.List.Forall2
import DeployLint.Proofs.Document.Places
import DeployLint.Proofs.Resource.Findings

/-!
# Resources — what a role grants

What is found on a role is told rule by rule, and on a rule by which texts
stand under its verbs and its resources (`Names`): not by whether a text
stands alone there or in a list, nor by what else is in that list. So another
spelling of the same texts changes nothing (`Respelt`), and as every condition
asks for texts that are there, a rule that grants more is reported where it
was before (`Widened`).
-/

namespace DeployLint

namespace Document

variable {rule rule' value value' : Document} {field text : String} {tables : SecurityTables}

/-! ## Texts under a field -/

/-- A text stands under a field, alone or in a list. -/
def Names (rule : Document) (field text : String) : Prop :=
  ∃ value, rule.get? field = some value ∧
    (value = .string text ∨ ∃ items, value = .sequence items ∧ .string text ∈ items)

theorem mem_stringValues_iff :
    text ∈ value.stringValues ↔
      value = .string text ∨ ∃ items, value = .sequence items ∧ .string text ∈ items := by
  rw [stringValues]
  cases hvalue : value.asString? with
  | some found =>
    obtain rfl := asString?_eq_some_iff.1 hvalue
    simp [string, eq_comm]
  | none =>
    have hother : value ≠ .string text := by
      rintro rfl
      exact Option.some_ne_none text hvalue
    simp [mem_stringItems_iff, hother]

/-- The texts under a field, in order. -/
def textsAt (rule : Document) (field : String) : List String :=
  ((rule.get? field).map stringValues).getD []

theorem mem_textsAt_iff : text ∈ rule.textsAt field ↔ rule.Names field text := by
  rw [textsAt, Names]
  cases rule.get? field with
  | none => simp
  | some value => simp [mem_stringValues_iff]

instance (rule : Document) (field text : String) : Decidable (rule.Names field text) :=
  decidable_of_iff _ mem_textsAt_iff

/-! ## Other spellings -/

/-- Two ways to write the same texts under a field. -/
inductive Respelt : Document → Document → Prop
  | refl (value : Document) : Respelt value value
  /-- A text alone is a list of one. -/
  | alone (text : String) : Respelt (.string text) (.sequence [.string text])
  /-- What is no text does not count. -/
  | insert (before after : List Document) {item : Document} (h : item.asString? = none) :
    Respelt (.sequence (before ++ after)) (.sequence (before ++ item :: after))
  | symm {value value' : Document} (h : Respelt value value') : Respelt value' value
  | trans {value value' value'' : Document} (h : Respelt value value')
      (h' : Respelt value' value'') : Respelt value value''

theorem Respelt.stringValues_eq (h : Respelt value value') :
    value.stringValues = value'.stringValues := by
  induction h with
  | refl => rfl
  | alone => rfl
  | @insert before after item hitem =>
    have hsame : (before ++ after).filterMap asString? =
        (before ++ item :: after).filterMap asString? := by
      rw [List.filterMap_append, List.filterMap_append, List.filterMap_cons_none hitem]
    exact hsame
  | symm _ ih => exact ih.symm
  | trans _ _ ih ih' => exact ih.trans ih'

/-- A rule with the same verbs and resources in other spellings. -/
def RuleRespelt (rule rule' : Document) : Prop :=
  ∀ field ∈ ["verbs", "resources"], Option.Rel Respelt (rule.get? field) (rule'.get? field)

/-- A rule with at least the same verbs and resources. -/
def RuleWidened (rule rule' : Document) : Prop :=
  ∀ field ∈ ["verbs", "resources"], ∀ text, rule.Names field text → rule'.Names field text

theorem RuleRespelt.textsAt_eq (h : RuleRespelt rule rule')
    (hfield : field ∈ ["verbs", "resources"]) : rule.textsAt field = rule'.textsAt field := by
  have hvalues : Option.Rel Respelt (rule.get? field) (rule'.get? field) := h field hfield
  rw [textsAt, textsAt]
  generalize rule.get? field = found at hvalues ⊢
  generalize rule'.get? field = found' at hvalues ⊢
  cases hvalues with
  | some hvalue => rw [Option.map_some, Option.map_some, hvalue.stringValues_eq]
  | none => rfl

end Document

namespace Finding

variable {fs fs' gs gs' : List Finding}

/-- Where a list has a finding of a rule at a path, another one has one too. -/
def Kept (fs gs : List Finding) : Prop := ∀ f ∈ fs, ∃ g ∈ gs, g.code = f.code ∧ g.path = f.path

theorem Kept.append (h : Kept fs gs) (h' : Kept fs' gs') : Kept (fs ++ fs') (gs ++ gs') := by
  intro f hf
  rcases List.mem_append.1 hf with hf | hf
  · obtain ⟨g, hg, hsame⟩ := h f hf
    exact ⟨g, List.mem_append_left _ hg, hsame⟩
  · obtain ⟨g, hg, hsame⟩ := h' f hf
    exact ⟨g, List.mem_append_right _ hg, hsame⟩

theorem Kept.ite {p q : Prop} [Decidable p] [Decidable q] {f g : Finding} (h : p → q)
    (hcode : g.code = f.code) (hpath : g.path = f.path) :
    Kept (if p then [f] else []) (if q then [g] else []) := by
  intro x hx
  obtain ⟨hp, hx⟩ := List.mem_ite_nil_right.1 hx
  obtain rfl := List.mem_singleton.1 hx
  exact ⟨g, List.mem_ite_nil_right.2 ⟨h hp, List.mem_singleton_self g⟩, hcode, hpath⟩

end Finding

open Finding (Kept)

namespace Resource

variable {r r' : Resource} {tables : SecurityTables} {rule rule' : Document} {position : Nat}

/-! ## One rule of a role -/

/-- What is said of a fault of a rule. -/
def saidOf (r : Resource) (position : Nat) (fault : Rule) (allowed : String) : Finding :=
  let name := r.name?.getD "<unnamed>"
  { code := fault.code
    severity := .warning
    subject := r.subject
    path := some ((Path.ofKeys ["rules"]).index position).text
    line := none
    message := s!"Role {name} rule {position} {allowed}" }

/-- The verbs of a rule that a table calls dangerous, in the rule's order. -/
def dangerousVerbs (tables : SecurityTables) (rule : Document) : List String :=
  (rule.textsAt "verbs").filter fun verb => verb ∈ tables.dangerousVerbs

/-- What there is to say of a rule, told by the texts that stand under its
verbs and its resources. -/
def grantFindings (r : Resource) (tables : SecurityTables) (position : Nat) (rule : Document) :
    List Finding :=
  let dangerous := ", ".intercalate (dangerousVerbs tables rule)
  (if rule.Names "verbs" "*" then
      [r.saidOf position .wildcardVerbs "grants all verbs (*)"]
    else []) ++
    (if rule.Names "resources" "*" then
      [r.saidOf position .wildcardResources "grants access to all resources (*)"]
    else []) ++
    (if rule.Names "resources" "secrets" ∧
        ∃ verb ∈ tables.dangerousVerbs, rule.Names "verbs" verb then
      [r.saidOf position .dangerousSecretAccess ("allows " ++ dangerous ++ " on secrets")]
    else []) ++
    if rule.Names "resources" "pods" ∧ rule.Names "verbs" "create" then
      [r.saidOf position .podCreation "allows creating pods"]
    else []

theorem dangerousVerbs_ne_nil_iff :
    dangerousVerbs tables rule ≠ [] ↔ ∃ verb ∈ tables.dangerousVerbs, rule.Names "verbs" verb := by
  rw [Ne, dangerousVerbs, List.filter_eq_nil_iff]
  simp only [decide_eq_true_eq, not_forall, not_not, Document.mem_textsAt_iff, exists_prop]
  exact exists_congr fun verb => and_comm

theorem checkRule_eq (r : Resource) (tables : SecurityTables) (position : Nat) (rule : Document) :
    r.checkRule tables position rule = r.grantFindings tables position rule := by
  have hdangerous : (Grant.ofDocument rule).dangerousVerbs tables = dangerousVerbs tables rule := by
    refine List.filter_congr fun verb _ => ?_
    rw [List.contains_eq_mem]
  have hverb : ∀ text,
      (Grant.ofDocument rule).verbs.contains text = true ↔ rule.Names "verbs" text :=
    fun text => List.contains_iff_mem.trans Document.mem_textsAt_iff
  have hresource : ∀ text,
      (Grant.ofDocument rule).resources.contains text = true ↔ rule.Names "resources" text :=
    fun text => List.contains_iff_mem.trans Document.mem_textsAt_iff
  rw [checkRule, Grant.faults, grantFindings]
  simp only [List.map_append, apply_ite (List.map _), List.map_singleton, List.map_nil, hverb,
    hresource, hdangerous, Bool.and_eq_true, Bool.not_eq_true', List.isEmpty_eq_false_iff,
    dangerousVerbs_ne_nil_iff]
  rfl

/-- Of a rule in another spelling the same is said. -/
theorem grantFindings_of_respelt (hsubject : r'.subject = r.subject) (hname : r'.name? = r.name?)
    (h : rule.RuleRespelt rule') :
    r.grantFindings tables position rule = r'.grantFindings tables position rule' := by
  have hverbs : rule.textsAt "verbs" = rule'.textsAt "verbs" := h.textsAt_eq (by decide)
  have hresources : rule.textsAt "resources" = rule'.textsAt "resources" := h.textsAt_eq (by decide)
  have hgrant : Grant.ofDocument rule' = Grant.ofDocument rule :=
    congrArg₂ Grant.mk hverbs.symm hresources.symm
  simp only [← checkRule_eq, checkRule, finding, hgrant, hname, hsubject]

/-- And what is said of a rule is said of one that grants more. -/
theorem kept_grantFindings (h : rule.RuleWidened rule') :
    Kept (r.grantFindings tables position rule) (r'.grantFindings tables position rule') := by
  have hverbs : ∀ text, rule.Names "verbs" text → rule'.Names "verbs" text := h _ (by decide)
  have hresources : ∀ text, rule.Names "resources" text → rule'.Names "resources" text :=
    h _ (by decide)
  refine Kept.append (Kept.append (Kept.append ?wildcardVerbs ?wildcardResources) ?secrets) ?pods
  case wildcardVerbs => exact Kept.ite (hverbs "*") rfl rfl
  case wildcardResources => exact Kept.ite (hresources "*") rfl rfl
  case secrets =>
    refine Kept.ite ?_ rfl rfl
    rintro ⟨hsecrets, verb, hdangerous, hverb⟩
    exact ⟨hresources _ hsecrets, verb, hdangerous, hverbs verb hverb⟩
  case pods =>
    refine Kept.ite ?_ rfl rfl
    rintro ⟨hpods, hcreate⟩
    exact ⟨hresources _ hpods, hverbs _ hcreate⟩

/-! ## All rules of a role -/

/-- A role of the two kinds that grant by rules, whose rules are a sequence. -/
structure HasRules (r : Resource) (items : List Document) : Prop where
  kind : r.document.get? "kind" = some (.string "Role") ∨
    r.document.get? "kind" = some (.string "ClusterRole")
  rules : r.document.get? "rules" = some (.sequence items)

theorem isRole_ofName_iff {s : String} :
    (ResourceKind.ofName s).isRole = true ↔ s = "Role" ∨ s = "ClusterRole" := by
  constructor
  · intro h
    have hname := ResourceKind.name_ofName s
    generalize ResourceKind.ofName s = kind at h hname
    cases kind with
    | role => exact .inl hname.symm
    | clusterRole => exact .inr hname.symm
    | _ => exact nomatch h
  · rintro (rfl | rfl) <;> rfl

theorem isRole_kind?_iff :
    r.kind?.any ResourceKind.isRole = true ↔ r.document.get? "kind" = some (.string "Role") ∨
      r.document.get? "kind" = some (.string "ClusterRole") := by
  rw [kind?, Option.any_map, Option.any_eq_true]
  simp only [kindName?, Option.bind_eq_some_iff, Document.asString?_eq_some_iff, isRole_ofName_iff,
    exists_eq_right, and_or_left, exists_or]

theorem HasRules.roleRules_eq {items : List Document} (h : r.HasRules items) :
    r.roleRules = items := by
  rw [roleRules, if_pos (isRole_kind?_iff.2 h.kind), h.rules]
  rfl

theorem roleRules_eq_nil (h : ∀ items, ¬ r.HasRules items) : r.roleRules = [] := by
  rw [roleRules]
  split
  · rename_i hrole
    cases hrules : (r.document.get? "rules").bind Document.asSequence? with
    | none => rfl
    | some items =>
      obtain ⟨value, hvalue, hitems⟩ := Option.bind_eq_some_iff.1 hrules
      obtain rfl := Document.asSequence?_eq_some_iff.1 hitems
      exact absurd ⟨isRole_kind?_iff.1 hrole, hvalue⟩ (h items)
  · rfl

/-- Two resources that differ in their rules only, rule by rule as a relation says. -/
structure RulesDiffer (R : Document → Document → Prop) (r r' : Resource) : Prop where
  subject : r'.subject = r.subject
  others : ∀ key, key ≠ "rules" → r'.document.get? key = r.document.get? key
  rules : ∃ items items', r.document.get? "rules" = some (.sequence items) ∧
    r'.document.get? "rules" = some (.sequence items') ∧ List.Forall₂ R items items'

namespace RulesDiffer

variable {R : Document → Document → Prop}

theorem name?_eq (h : RulesDiffer R r r') : r'.name? = r.name? := by
  have hmetadata : r'.document.get? "metadata" = r.document.get? "metadata" :=
    h.others "metadata" (by decide)
  have hpath : r'.document.getPath? ["metadata", "name"] =
      r.document.getPath? ["metadata", "name"] := by
    rw [Document.getPath?, Document.getPath?, List.foldlM_cons, List.foldlM_cons, hmetadata]
  rw [name?, name?, hpath]

theorem forall₂_roleRules (h : RulesDiffer R r r') : List.Forall₂ R r.roleRules r'.roleRules := by
  have hkind : r'.kind? = r.kind? := by
    rw [kind?, kind?, kindName?, kindName?, h.others "kind" (by decide)]
  obtain ⟨items, items', hitems, hitems', hrules⟩ := h.rules
  rw [roleRules, roleRules, hkind, hitems, hitems']
  split
  · exact hrules
  · exact .nil

end RulesDiffer

/-- What is made of lists item by item, with the positions of the items, is
related as what is made of the items. -/
theorem rel_flatMap_zipIdx {α β : Type} {R : α → α → Prop} {Q : List β → List β → Prop}
    {give give' : Nat → α → List β} {xs ys : List α} (h : List.Forall₂ R xs ys) (hnil : Q [] [])
    (happend : ∀ {as bs as' bs' : List β}, Q as as' → Q bs bs' → Q (as ++ bs) (as' ++ bs'))
    (hgive : ∀ k x y, R x y → Q (give k x) (give' k y)) (k : Nat) :
    Q ((xs.zipIdx k).flatMap fun x => give x.2 x.1)
      ((ys.zipIdx k).flatMap fun y => give' y.2 y.1) := by
  induction h generalizing k with
  | nil => exact hnil
  | cons hxy _ ih => exact happend (hgive k _ _ hxy) (ih (k + 1))

theorem checkPermissions_eq (r : Resource) (tables : SecurityTables) :
    r.checkPermissions tables =
      r.roleRules.zipIdx.flatMap fun x => r.grantFindings tables x.2 x.1 := by
  rw [checkPermissions]
  exact List.flatMap_congr fun x _ => checkRule_eq r tables x.2 x.1

/-- **Findings on a role follow its rules.** Only the two kinds of roles have
any, and only for a sequence of rules; then they are what there is to say of
each rule, in order. Writing the texts of a rule in another way changes none
of them. And whatever a rule grants on top, where a rule of the catalogue was
reported at a path it still is. -/
theorem checkPermissions_follows_rules (r : Resource) (tables : SecurityTables) :
    ((∀ items, ¬ r.HasRules items) → r.checkPermissions tables = []) ∧
    (∀ items, r.HasRules items → r.checkPermissions tables =
      items.zipIdx.flatMap fun x => r.grantFindings tables x.2 x.1) ∧
    (∀ r', RulesDiffer Document.RuleRespelt r r' →
      r'.checkPermissions tables = r.checkPermissions tables) ∧
    ∀ r', RulesDiffer Document.RuleWidened r r' →
      Kept (r.checkPermissions tables) (r'.checkPermissions tables) := by
  refine ⟨fun h => ?none, fun items h => ?rules, fun r' h => ?respelt, fun r' h => ?widened⟩
  case none => rw [checkPermissions_eq, roleRules_eq_nil h]; rfl
  case rules => rw [checkPermissions_eq, h.roleRules_eq]
  case respelt =>
    rw [checkPermissions_eq, checkPermissions_eq, eq_comm]
    refine rel_flatMap_zipIdx (Q := Eq) h.forall₂_roleRules rfl ?_ (fun k x y hxy => ?_) 0
    · rintro _ _ _ _ rfl rfl
      rfl
    · exact grantFindings_of_respelt h.subject h.name?_eq hxy
  case widened =>
    rw [checkPermissions_eq, checkPermissions_eq]
    refine rel_flatMap_zipIdx (Q := Kept) h.forall₂_roleRules ?_ Kept.append (fun k x y hxy => ?_) 0
    · exact fun f hf => absurd hf List.not_mem_nil
    · exact kept_grantFindings hxy

/-- A rule of a role that grants verbs on resources. -/
def granting (verbs resources : Document) : Document :=
  .mapping [("resources", resources), ("verbs", verbs)]

/-- A resource of a kind with rules. -/
def withRules (kind : String) (rules : List Document) : Resource :=
  ⟨.mapping [("kind", .string kind), ("rules", .sequence rules)], { artifact := "role.yaml" }⟩

theorem rulesDiffer_withRules {R : Document → Document → Prop} (kind : String)
    {items items' : List Document} (h : List.Forall₂ R items items') :
    RulesDiffer R (withRules kind items) (withRules kind items') where
  subject := rfl
  others key hkey := by simp [withRules, Document.get?, Fields.get?, hkey]
  rules := ⟨items, items', rfl, rfl, h⟩

/-- A verb that changes secrets: alone, in a list with something that is no
text, and in a list with more verbs; and a deployment, which has no rules. -/
theorem checkPermissions_follows_rules_secrets :
    let narrow := withRules "Role" [granting (.string "delete") (.string "secrets")]
    let respelt := withRules "Role"
      [granting (.sequence [.null, .string "delete"]) (.sequence [.string "secrets"])]
    let wide := withRules "Role"
      [granting (.sequence [.string "get", .string "delete"])
        (.sequence [.string "*", .string "secrets"])]
    (withRules "Deployment" [granting (.string "*") (.string "*")]).checkPermissions {} = [] ∧
    narrow.checkPermissions {} =
      [narrow.saidOf 0 .dangerousSecretAccess "allows delete on secrets"] ∧
    respelt.checkPermissions {} = narrow.checkPermissions {} ∧
    Kept (narrow.checkPermissions {}) (wide.checkPermissions {}) := by
  intro narrow respelt wide
  obtain ⟨-, hrules, hrespelt, hwidened⟩ := checkPermissions_follows_rules narrow {}
  refine ⟨?deployment, ?narrow, hrespelt respelt ?respelt, hwidened wide ?wide⟩
  case deployment =>
    refine (checkPermissions_follows_rules _ {}).1 fun items h => ?_
    have hkind := h.kind
    simp [withRules, Document.get?, Fields.get?, Document.string] at hkind
  case narrow => exact (hrules _ ⟨.inl rfl, rfl⟩).trans (by decide +kernel)
  case respelt =>
    have hverbs : Document.Respelt (.string "delete") (.sequence [.null, .string "delete"]) :=
      (Document.Respelt.alone "delete").trans (.insert [] [.string "delete"] rfl)
    refine rulesDiffer_withRules "Role" (.cons ?_ .nil)
    have hresources : Document.Respelt (.string "secrets") (.sequence [.string "secrets"]) :=
      .alone "secrets"
    exact List.forall_mem_cons.2 ⟨.some hverbs, List.forall_mem_singleton.2 (.some hresources)⟩
  case wide =>
    refine rulesDiffer_withRules "Role" (.cons (List.forall_mem_cons.2 ⟨?verbs, ?resources⟩) .nil)
    case verbs =>
      exact fun text h => Document.mem_textsAt_iff.1
        (List.mem_cons_of_mem "get" (Document.mem_textsAt_iff.2 h))
    case resources =>
      exact List.forall_mem_singleton.2 fun text h => Document.mem_textsAt_iff.1
        (List.mem_cons_of_mem "*" (Document.mem_textsAt_iff.2 h))

end Resource

end DeployLint
