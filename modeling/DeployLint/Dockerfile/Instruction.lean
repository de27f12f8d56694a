import DeployLint.Text.Blank
import DeployLint.Text.Search
import DeployLint.Text.Uppercase

/-!
# Build files — lines and instructions

A build file is read line by line. Blank lines and comments do not count. A
line that ends with a backslash goes on in the next line that counts, and
the lines that belong together are one instruction.
-/

namespace DeployLint

/-- A text of a build file and the number of the line that it begins on. -/
structure Instruction where
  line : UInt32
  text : String
deriving DecidableEq, Repr

namespace Instruction

/-- The first word, in upper case. -/
def keyword (i : Instruction) : String := Text.upper ((Text.words i.text).head?.getD "")

/-- The words after the first. -/
def arguments (i : Instruction) : List String := (Text.words i.text).tail

def is (i : Instruction) (keyword : String) : Bool := i.keyword == keyword

/-- What stands on a line before a backslash that continues it; the whole line otherwise. -/
def body (line : String) : String :=
  match Text.beforeEnd? line "\\" with
  | some text => Text.trimEnd text
  | none => line

/-- Whether a line goes on in the next one. -/
def continues (line : String) : Bool := Text.endsWith line "\\"

/-- An instruction with one more line of it; an empty line adds nothing. -/
def join (i : Instruction) (line : String) : Instruction :=
  if (body line).isEmpty then i else { i with text := i.text ++ " " ++ body line }

/-- Whether a line counts, given without the blanks around it: it is neither
blank nor a comment. -/
def counts (line : String) : Bool := !line.isEmpty && !Text.beginsWith line "#"

/-- The instruction that a numbered line belongs to, given the one that has
begun before it. -/
def extend (begun : Option Instruction) (n : UInt32) (line : String) : Instruction :=
  match begun with
  | some i => i.join line
  | none => ⟨n, body line⟩

/-- The instructions of numbered lines in one pass, given the one that has
begun before them. A line that does not count is passed over, also inside an
instruction. -/
def gather (begun : Option Instruction) : List (UInt32 × String) → List Instruction
  | [] => begun.toList
  | (n, line) :: rest =>
    let text := Text.trim line
    if counts text then
      if continues text then gather (some (extend begun n text)) rest
      else extend begun n text :: gather none rest
    else gather begun rest

end Instruction

namespace Dockerfile

/-- The lines that count, without the blanks around them, each an instruction
of its own. -/
def physicalLines (text : String) : List Instruction :=
  ((Text.numberedLines text).map fun (n, line) => ⟨n, Text.trim line⟩).filter
    fun (i : Instruction) => Instruction.counts i.text

/-- The instructions of a build file, in order. -/
def instructions (text : String) : List Instruction :=
  Instruction.gather none (Text.numberedLines text)

end Dockerfile

end DeployLint
