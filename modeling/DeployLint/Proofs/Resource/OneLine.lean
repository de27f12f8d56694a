import DeployLint.Lint
import DeployLint.Proofs.Document.Texts
import DeployLint.Proofs.Finding.OneLine
import DeployLint.Proofs.Resource.Places

/-!
# Resources — findings on one line

Most checks on a resource make paths and messages of their own words and of
numbers. The others quote the document as it stands, so their findings keep to
a line only where its texts do. `ownLine_resource` tells the two apart by the
rules that they ask.
-/

namespace DeployLint

open Finding (All)

namespace Resource

variable {r : Resource}

/-- The rules whose messages quote the document as it stands. -/
def quotingRules : List Rule :=
  [.nameInvalidCharacters, .labelKeyTooLong, .labelValueTooLong, .annotationPrefixTooLong,
    .annotationNameTooLong, .annotationKeyTooLong, .suspiciousApiVersion, .kindNotCapitalized,
    .suspiciousCpuQuantity, .suspiciousMemoryQuantity, .wildcardVerbs, .wildcardResources,
    .dangerousSecretAccess, .podCreation]

/-- A finding that stays on one line, unless it quotes a document with a text
that does not. -/
def OwnLine (r : Resource) (f : Finding) : Prop :=
  f.OnOneLine ∨ (∃ rule ∈ quotingRules, f.code = rule.code) ∧ ¬ r.document.OneLine

/-- A finding in words of the library and numbers. -/
theorem ownLine_finding {rule : Rule} {severity : Severity} {path : Path} {message : String}
    (hpath : path.OneLine) (hmessage : Text.OneLine message) :
    r.OwnLine (r.finding rule severity path message) := by
  refine .inl ⟨rule.oneLine_code, fun text htext => ?_, hmessage⟩
  obtain rfl := Option.some.inj htext
  exact hpath.text

/-- A finding that quotes the document. -/
theorem ownLine_quoting {rule : Rule} {severity : Severity} {path : Path} {message : String}
    (hrule : rule ∈ quotingRules)
    (h : r.document.OneLine → path.OneLine ∧ Text.OneLine message) :
    r.OwnLine (r.finding rule severity path message) := by
  by_cases hd : r.document.OneLine
  · exact ownLine_finding (h hd).1 (h hd).2
  · exact .inr ⟨⟨rule, hrule, rfl⟩, hd⟩

/-! ## Metadata -/

theorem ownLine_checkFields (r : Resource) : All r.OwnLine r.checkFields := by
  rw [checkFields]
  refine All.append ?top ?nameless
  case top =>
    have hfields : ∀ name ∈ requiredFields, Text.OneLine name := by decide
    refine All.map fun name hname => ?_
    have hline : Text.OneLine name := hfields name (List.mem_of_mem_filter hname)
    refine ownLine_finding (Path.oneLine_ofKeys.2 (List.forall_mem_singleton.2 hline)) ?_
    simp +decide [hline]
  case nameless =>
    refine All.singleton_of (ownLine_finding (Path.oneLine_ofKeys.2 (by decide)) ?_)
    simp +decide

/-- What a key of the document holds is shown on one line if the document's texts are. -/
theorem oneLine_textAt (hd : r.document.OneLine) {name text : String}
    (h : (r.document.get? name).map Document.text = some text) : Text.OneLine text := by
  obtain ⟨n, hn, rfl⟩ := Option.map_eq_some_iff.1 h
  exact hd.text (Document.at?_key_of_get? (p := .root) rfl hn)

theorem ownLine_checkVersionAndKind (r : Resource) : All r.OwnLine r.checkVersionAndKind := by
  rw [checkVersionAndKind]
  refine All.append ?version ?kind
  case version =>
    split
    · exact All.nil
    · rename_i text htext
      refine All.singleton_unless (ownLine_quoting (by decide) fun hd => ⟨?_, ?_⟩)
      · exact Path.oneLine_ofKeys.2 (by decide)
      · have hline : Text.OneLine text := oneLine_textAt hd htext
        simp +decide [hline]
  case kind =>
    split
    · exact All.nil
    · rename_i text htext
      refine All.singleton_unless (ownLine_quoting (by decide) fun hd => ⟨?_, ?_⟩)
      · exact Path.oneLine_ofKeys.2 (by decide)
      · have hline : Text.OneLine text := oneLine_textAt hd htext
        simp +decide [hline]

/-- A name is shown on one line if the document's texts are. -/
theorem oneLine_name (hd : r.document.OneLine) {other : String} (hother : Text.OneLine other) :
    Text.OneLine (r.name?.getD other) := by
  cases hname : r.name? with
  | none => exact hother
  | some name =>
    obtain ⟨n, hn, htext⟩ := Option.bind_eq_some_iff.1 hname
    exact hd.scalarText? ((Document.at?_ofKeys _ _).trans hn) htext

/-- A name whose characters may stand in names is on one line. -/
theorem oneLine_of_all_isNameChar {name : String} (h : name.toList.all isNameChar = true) :
    Text.OneLine name := by
  intro hmem
  exact absurd (List.all_eq_true.1 h '\n' hmem) (by decide)

/-- Of what breaks a name, only a wrong character lets it on several lines. -/
theorem oneLine_of_nameFault? {limits : NamingLimits} {name message : String} {rule : Rule}
    (h : nameFault? limits name = some (rule, message)) :
    Text.OneLine message ∨
      rule = .nameInvalidCharacters ∧ (Text.OneLine name → Text.OneLine message) := by
  simp only [nameFault?] at h
  split at h
  · cases h
    exact .inl (by decide)
  · split at h
    · cases h
      exact .inl (by simp +decide)
    · split at h
      · cases h
        exact .inr ⟨rfl, fun hname => by simp +decide [hname]⟩
      · rename_i hchars
        split at h
        · cases h
          rw [Bool.or_eq_true, not_or, Bool.not_eq_true', Bool.not_eq_false] at hchars
          have hname : Text.OneLine name := oneLine_of_all_isNameChar hchars.1
          exact .inl (by simp +decide [hname])
        · cases h

theorem ownLine_checkName (r : Resource) (limits : NamingLimits) :
    All r.OwnLine (r.checkName limits) := by
  rw [checkName]
  split
  · exact All.singleton (ownLine_finding (Path.oneLine_ofKeys.2 (by decide)) (by decide))
  · split
    · exact All.nil
    · rename_i rule message hfault
      have hpath : (Path.ofKeys ["metadata", "name"]).OneLine := Path.oneLine_ofKeys.2 (by decide)
      refine All.singleton ?_
      rcases oneLine_of_nameFault? hfault with hline | ⟨rfl, hquoted⟩
      · exact ownLine_finding hpath hline
      · exact ownLine_quoting (by decide) fun hd => ⟨hpath, hquoted (oneLine_name hd (by decide))⟩

theorem ownLine_checkLabels (hr : r.document.Ordered) (limits : NamingLimits) :
    All r.OwnLine (r.checkLabels limits) := by
  rw [checkLabels]
  cases hlabels : r.labels? with
  | none => exact All.nil
  | some fields =>
    refine All.flatMap fun x hx => ?_
    have hplace : r.document.at? ((Path.ofKeys ["metadata", "labels"]).key x.1) = some x.2 := by
      obtain ⟨n, hn, hmapping⟩ := Option.bind_eq_some_iff.1 hlabels
      obtain rfl := Document.asMapping?_eq_some_iff.1 hmapping
      exact hr.at?_entry ((Document.at?_ofKeys _ _).trans hn) hx
    refine All.append ?key ?value
    case key =>
      refine All.singleton_of (ownLine_quoting (by decide) fun hd => ⟨hd.path ⟨_, hplace⟩, ?_⟩)
      have hkey : Text.OneLine x.1 := hd _ (.key ⟨_, hplace⟩)
      simp +decide [hkey]
    case value =>
      refine All.singleton_of (ownLine_quoting (by decide) fun hd => ⟨hd.path ⟨_, hplace⟩, ?_⟩)
      have htext : Text.OneLine x.2.text := hd.text hplace
      simp +decide [htext]

theorem ownLine_checkAnnotations (r : Resource) (limits : NamingLimits) :
    All r.OwnLine (r.checkAnnotations limits) := by
  rw [checkAnnotations]
  cases hannotations : r.annotations? with
  | none => exact All.nil
  | some fields =>
    refine All.flatMap fun key hkey => ?_
    have hplace : r.document.Has ((Path.ofKeys ["metadata", "annotations"]).key key) :=
      has_entry hannotations hkey
    rw [checkAnnotationKey]
    split
    · rename_i domain name hcut
      have hsides : r.document.OneLine → Text.OneLine domain ∧ Text.OneLine name := fun hd =>
        Text.oneLine_of_cutLast? hcut (hd key (.key hplace))
      refine All.append ?domain ?name
      case domain =>
        refine All.singleton_of (ownLine_quoting (by decide) fun hd => ⟨hd.path hplace, ?_⟩)
        simp +decide [(hsides hd).1]
      case name =>
        refine All.singleton_of (ownLine_quoting (by decide) fun hd => ⟨hd.path hplace, ?_⟩)
        simp +decide [(hsides hd).2]
    · refine All.singleton_of (ownLine_quoting (by decide) fun hd => ⟨hd.path hplace, ?_⟩)
      have hline : Text.OneLine key := hd key (.key hplace)
      simp +decide [hline]

/-! ## Structure -/

theorem oneLine_kindName (k : StructuredKind) : Text.OneLine k.name := by
  cases k <;> decide

/-- Looking down a structure adds names of its own to the path, and positions;
nothing of the document. -/
theorem descent_oneLine (k : StructuredKind) (r : Resource) :
    Descent k r (fun place => place.path.OneLine) r.OwnLine := by
  have hfields : ∀ name ∈ structureFields, Text.OneLine name := by decide
  have hkey : ∀ {path : Path} {name : String}, path.OneLine → name ∈ structureFields →
      (path.key name).OneLine := by
    intro path name hpath hname
    exact Path.oneLine_key.2 ⟨hpath, hfields name hname⟩
  refine ⟨Path.oneLine_root, fun hplace hname _ => hkey hplace hname,
    fun hplace _ _ => Path.oneLine_index.2 hplace, fun hplace hname _ => ?missing,
    fun hplace => ?unlisted⟩
  case missing =>
    have hpath := hkey hplace hname
    refine ownLine_finding hpath ?_
    simp +decide [hpath.text, oneLine_kindName]
  case unlisted =>
    refine ownLine_finding hplace ?_
    simp +decide [hplace.text, oneLine_kindName]

theorem ownLine_checkStructure (r : Resource) : All r.OwnLine r.checkStructure :=
  Descent.checkStructure fun k => descent_oneLine k r

/-! ## Permissions and quantities -/

/-- The verbs that a rule of a role grants are texts of the document. -/
theorem oneLine_verb (hd : r.document.OneLine) {x : Document × Nat} (hx : x ∈ r.roleRules.zipIdx)
    {verb : String} (hverb : verb ∈ (Grant.ofDocument x.1).verbs) : Text.OneLine verb := by
  rw [Grant.ofDocument] at hverb
  cases hverbs : x.1.get? "verbs" with
  | none =>
    rw [hverbs] at hverb
    exact absurd hverb List.not_mem_nil
  | some verbs =>
    rw [hverbs] at hverb
    exact hd.stringValues (Document.at?_key_of_get? (at?_rule hx) hverbs) hverb

/-- What a grant allows is told in its own verbs. -/
theorem oneLine_of_mem_faults {g : Grant} {tables : SecurityTables} {fault : Rule × String}
    (h : fault ∈ g.faults tables) (hverbs : ∀ verb ∈ g.verbs, Text.OneLine verb) :
    Text.OneLine fault.2 := by
  have hdangerous : Text.OneLine (", ".intercalate (g.dangerousVerbs tables)) :=
    Text.oneLine_intercalate (by decide) fun verb hverb => hverbs verb (List.mem_of_mem_filter hverb)
  simp only [Grant.faults, List.mem_append, List.mem_ite_nil_right, List.mem_singleton] at h
  rcases h with ((⟨-, rfl⟩ | ⟨-, rfl⟩) | ⟨-, rfl⟩) | ⟨-, rfl⟩
  · decide
  · decide
  · simp +decide [hdangerous]
  · decide

theorem ownLine_checkPermissions (r : Resource) (tables : SecurityTables) :
    All r.OwnLine (r.checkPermissions tables) := by
  have hquoting : ∀ rule ∈ grantRules, rule ∈ quotingRules := by decide
  refine All.flatMap fun x hx => All.map fun fault hfault => ?_
  refine ownLine_quoting (hquoting _ (severity_of_mem_faults hfault).1) fun hd => ⟨?_, ?_⟩
  · exact hd.path ⟨x.1, at?_rule hx⟩
  · have hname : Text.OneLine (r.name?.getD "<unnamed>") := oneLine_name hd (by decide)
    have hallowed : Text.OneLine fault.2 :=
      oneLine_of_mem_faults hfault fun verb hverb => oneLine_verb hd hx hverb
    simp +decide [hname, hallowed]

theorem ownLine_shapeFinding? {rule : Rule} (hrule : rule ∈ quotingRules) {title : String}
    (htitle : Text.OneLine title) (name : String) (isPlausible : String → Bool) {path : Path}
    {values : Document} (hvalues : r.document.at? path = some values) :
    All r.OwnLine
      (Quantity.shapeFinding? r.subject rule title name isPlausible path values).toList := by
  rw [Quantity.shapeFinding?]
  split
  · exact All.nil
  · rename_i text htext
    split
    · exact All.nil
    · obtain ⟨n, hn, hstring⟩ := Option.bind_eq_some_iff.1 htext
      have hplace : r.document.at? (path.key name) = some n :=
        Document.at?_key_of_get? hvalues hn
      refine All.singleton (ownLine_quoting hrule fun hd => ⟨hd.path ⟨n, hplace⟩, ?_⟩)
      have hline : Text.OneLine text := hd.asString? hplace hstring
      simp +decide [htitle, hline]

theorem ownLine_checkQuantities (hr : r.document.Ordered) (depth : Nat) :
    All r.OwnLine (Quantity.check r.subject r.document depth) := by
  refine all_checkQuantities hr depth fun path values hvalues => All.append ?cpu ?memory
  case cpu => exact ownLine_shapeFinding? (by decide) (by decide) _ _ hvalues
  case memory => exact ownLine_shapeFinding? (by decide) (by decide) _ _ hvalues

/-! ## All rules -/

/-- **Only the rules that quote a document let its line feeds into a report.** -/
theorem ownLine_resource (c : Config) (hr : r.document.Ordered) :
    All r.OwnLine (Lint.resource c r) := by
  rw [Lint.resource]
  refine All.append (All.append (All.append (All.append (All.append (All.append (All.append
    ?fields ?versionAndKind) ?name) ?labels) ?annotations) ?shape) ?permissions) ?quantities
  case fields => exact ownLine_checkFields r
  case versionAndKind => exact ownLine_checkVersionAndKind r
  case name => exact ownLine_checkName r c.naming
  case labels => exact ownLine_checkLabels hr c.naming
  case annotations => exact ownLine_checkAnnotations r c.naming
  case shape => exact ownLine_checkStructure r
  case permissions => exact ownLine_checkPermissions r c.security
  case quantities => exact ownLine_checkQuantities hr c.quota.depth

end Resource

end DeployLint
