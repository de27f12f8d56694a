import DeployLint.Dockerfile.Practices
import DeployLint.Proofs.Finding.Rules

/-!
# Build files — whose findings they are

Every finding on a build file is of one of the rules on its lines, on its
instructions or on the tags of its images, and no rule is asked twice.
-/

namespace DeployLint

open Finding (All OfRules)

namespace Dockerfile

/-! ## Lines -/

/-- The rules that every line is asked. -/
def mistakeRules : List Rule := [.rootUser, .addLocalFiles, .pipCache]

/-- The rules that the lines of a build file are asked. -/
def lineRules : List Rule := .emptyDockerfile :: .missingFrom :: mistakeRules

theorem ofRules_checkLine (subject : Subject) (i : Instruction) :
    All (OfRules mistakeRules subject) (checkLine subject i) := by
  rw [checkLine]
  refine All.append (All.append ?rootUser ?addLocalFiles) ?pipCache
  case rootUser => exact All.singleton_of ((OfRules.graded (by decide) rfl _).onLine _)
  case addLocalFiles => exact All.singleton_of ((OfRules.graded (by decide) rfl _).onLine _)
  case pipCache => exact All.singleton_of ((OfRules.graded (by decide) rfl _).onLine _)

theorem ofRules_checkStart (subject : Subject) (first : Instruction) :
    All (OfRules [.missingFrom] subject) (checkStart subject first) := by
  rw [checkStart]
  exact All.singleton_unless ((OfRules.graded (by decide) rfl _).onLine _)

theorem ofRules_checkLines (text : String) (subject : Subject) :
    All (OfRules lineRules subject) (checkLines text subject) := by
  rw [checkLines]
  split
  · exact All.singleton (OfRules.graded (by decide) rfl _)
  · refine All.append ?start (All.flatMap fun i _ => ?mistakes)
    case start => exact (ofRules_checkStart subject _).imp fun f hf => hf.mono (by decide)
    case mistakes => exact (ofRules_checkLine subject i).imp fun f hf => hf.mono (by decide)

/-! ## Instructions -/

theorem ofRules_checkPresence {asked : List Rule} {subject : Subject} {finding : Finding}
    (hfinding : finding.OfRules asked subject) (is : List Instruction) (keyword : String) :
    All (OfRules asked subject) (checkPresence is keyword finding) := by
  rw [checkPresence]
  exact All.singleton_unless hfinding

theorem ofRules_checkLabels {asked : List Rule} (hmissing : .missingLabels ∈ asked)
    (hlabel : .missingOciLabel ∈ asked) (subject : Subject) (is : List Instruction) :
    All (OfRules asked subject) (checkLabels subject is) := by
  rw [checkLabels]
  split
  · exact All.singleton (OfRules.graded hmissing rfl _)
  · exact All.map fun label _ => OfRules.graded hlabel rfl _

/-- The rules that the tags of images are asked. -/
def tagRules : List Rule := [.emptyTag, .latestTag, .tagTooLong, .tagInvalidCharacter]

theorem ofRules_checkTag (tag : String) (subject : Subject) :
    All (OfRules tagRules subject) (checkTag tag subject) := by
  rw [checkTag]
  refine All.ite ?empty (All.append (All.append ?latest ?length) ?characters)
  case empty => exact All.singleton (OfRules.graded (by decide) rfl _)
  case latest => exact All.singleton_of (OfRules.graded (by decide) rfl _)
  case length => exact All.singleton_of (OfRules.graded (by decide) rfl _)
  case characters => exact All.map fun shown _ => OfRules.graded (by decide) rfl _

theorem ofRules_checkTags (text : String) (subject : Subject) :
    All (OfRules tagRules subject) (checkTags text subject) := by
  refine All.flatMap fun x _ => All.map fun f hf => ?_
  have hfinding : f.OfRules tagRules subject := ofRules_checkTag x.2 subject f hf
  exact hfinding.onLine x.1

end Dockerfile

end DeployLint
