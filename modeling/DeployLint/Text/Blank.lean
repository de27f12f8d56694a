/-!
# Text — blanks, words and lines

What every rule that reads raw text shares: the blank characters of
Unicode, a text with its edges trimmed, its words and its lines. All of
them are functions on `List Char`, with a `String` form beside them.
-/

namespace DeployLint

namespace Text

/-- The characters of the Unicode property `White_Space`. -/
def isBlank (c : Char) : Bool :=
  let n := c.toNat
  (9 ≤ n && n ≤ 13) || n == 0x20 || n == 0x85 || n == 0xA0 || n == 0x1680 ||
    (0x2000 ≤ n && n ≤ 0x200A) || n == 0x2028 || n == 0x2029 || n == 0x202F ||
    n == 0x205F || n == 0x3000

/-! ## Trimming -/

/-- The characters from the first that is not blank. -/
def dropBlanks (cs : List Char) : List Char := cs.dropWhile isBlank

/-- The characters up to the last that is not blank. -/
def dropTrailingBlanks (cs : List Char) : List Char := (cs.reverse.dropWhile isBlank).reverse

/-- A text without the blanks at its two ends. -/
def trim (s : String) : String := String.ofList (dropTrailingBlanks (dropBlanks s.toList))

/-- A text without the blanks at its end. -/
def trimEnd (s : String) : String := String.ofList (dropTrailingBlanks s.toList)

/-! ## Words -/

/-- The maximal runs of characters that are not blank. -/
def wordChars : List Char → List (List Char)
  | [] => []
  | c :: cs =>
    if isBlank c then wordChars cs
    else
      match cs, wordChars cs with
      | d :: _, w :: ws => if isBlank d then [c] :: w :: ws else (c :: w) :: ws
      | _, ws => [c] :: ws

/-- The words of a text: what stands between its blanks. -/
def words (s : String) : List String := (wordChars s.toList).map String.ofList

/-! ## Lines -/

/-- The lines of a text. A line feed ends a line, together with one
carriage return right before it; what follows the last line feed is a
line only if it is not empty. -/
def lineChars : List Char → List (List Char)
  | [] => []
  | '\n' :: cs => [] :: lineChars cs
  | '\r' :: '\n' :: cs => [] :: lineChars cs
  | c :: cs =>
    match lineChars cs with
    | [] => [[c]]
    | l :: ls => (c :: l) :: ls

/-- The lines of a text, in order. -/
def lines (s : String) : List String := (lineChars s.toList).map String.ofList

/-- The number of the line at a place. Lines count from one, and their numbers
have thirty-two bits: those of a text with more lines than that begin anew at zero. -/
def lineNumber (i : Nat) : UInt32 := i.toUInt32 + 1

/-- The lines of a text with their numbers. -/
def numberedLines (s : String) : List (UInt32 × String) :=
  (lines s).zipIdx.map fun (line, i) => (lineNumber i, line)

end Text

end DeployLint
