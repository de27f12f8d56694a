import Mathlib.Data.List.Infix
import DeployLint.Dockerfile.Image
import DeployLint.Proofs.Dockerfile.Renumbering
import DeployLint.Proofs.Text.Case
import DeployLint.Proofs.Text.Cutting
import DeployLint.Proofs.Text.Occurrence
import DeployLint.Proofs.Text.Words

/-!
# Build files — the images that they start from

A reference to an image is a place, a name, a tag and a digest, where the
place may hold colons, the digest anything, and the tag colons too. Cutting it
at the first `@`, the last slash and the first colon gets the tag of any such
reference back (`tag?_text`). So the tags of a build file are those of its
`FROM` instructions, whatever options and stage names stand around the
reference (`imageTags_decode_references`).
-/

namespace DeployLint

namespace Dockerfile

/-! ## References -/

/-- A reference to an image in its parts. -/
structure Reference where
  /-- The registry and the path in it, with a slash behind it. -/
  place : String
  name : String
  tag : Option String
  digest : Option String
  place_ends : place = "" ∨ Text.endsWith place "/" = true
  place_chars : '@' ∉ place.toList
  name_ne_empty : name ≠ ""
  name_chars : '/' ∉ name.toList ∧ ':' ∉ name.toList ∧ '@' ∉ name.toList
  tag_chars : ∀ t ∈ tag, '/' ∉ t.toList ∧ '@' ∉ t.toList

namespace Reference

variable (r : Reference)

/-- The tag as it is written, with a colon before it. -/
def tagText : String := (r.tag.map fun tag => ":" ++ tag).getD ""

/-- The digest as it is written, with an `@` before it. -/
def digestText : String := (r.digest.map fun digest => "@" ++ digest).getD ""

def text : String := r.place ++ (r.name ++ r.tagText) ++ r.digestText

theorem getLast?_place : ∀ c ∈ r.place.toList.getLast?, c = '/' := by
  rcases r.place_ends with hempty | hslash
  · rw [hempty]
    exact fun c hc => nomatch hc
  · obtain ⟨start, hstart⟩ := Text.endsWith_iff.1 hslash
    rw [hstart, String.toList_append]
    intro c hc
    exact (Option.some.inj (List.getLast?_concat.symm.trans hc)).symm

theorem not_mem_tagText {sep : Char} (hcolon : sep ≠ ':') (h : ∀ t ∈ r.tag, sep ∉ t.toList) :
    sep ∉ r.tagText.toList := by
  rw [tagText]
  cases htag : r.tag with
  | none => exact List.not_mem_nil
  | some t =>
    rw [Option.map_some, Option.getD_some, String.toList_append]
    exact fun hmem => (List.mem_cons.1 hmem).elim hcolon (h t htag)

theorem head?_digestText : ∀ c ∈ r.digestText.toList.head?, c = '@' := by
  rw [digestText]
  cases r.digest with
  | none => exact fun c hc => nomatch hc
  | some digest =>
    intro c hc
    rw [Option.map_some, Option.getD_some, String.toList_append] at hc
    exact (Option.some.inj hc).symm

/-- Before the first `@` stands all but the digest. -/
theorem beforeFirst_text :
    Text.beforeFirst '@' r.text = r.place ++ (r.name ++ r.tagText) := by
  refine Text.beforeFirst_append ?_ r.head?_digestText
  have htag : '@' ∉ r.tagText.toList :=
    r.not_mem_tagText (by decide) fun t ht => (r.tag_chars t ht).2
  rw [String.toList_append, String.toList_append, List.mem_append, List.mem_append]
  exact fun h => h.elim r.place_chars (Or.rec r.name_chars.2.2 htag)

/-- Behind the last slash of that stands the name, with the tag if there is one. -/
theorem behindLast_text :
    Text.behindLast '/' (r.place ++ (r.name ++ r.tagText)) = r.name ++ r.tagText := by
  refine Text.behindLast_append r.getLast?_place ?_
  have htag : '/' ∉ r.tagText.toList :=
    r.not_mem_tagText (by decide) fun t ht => (r.tag_chars t ht).1
  rw [String.toList_append, List.mem_append]
  exact Or.rec r.name_chars.1 htag

/-- And behind the first colon of that the tag. -/
theorem cutFirst?_text :
    (Text.cutFirst? ':' (r.name ++ r.tagText)).map (·.2) = r.tag := by
  rw [tagText]
  cases r.tag with
  | none =>
    rw [Option.map_none, Option.getD_none, String.append_empty,
      Text.cutFirst?_eq_none_iff.2 r.name_chars.2.1, Option.map_none]
  | some tag =>
    have hcut : Text.cutFirst? ':' (r.name ++ (":" ++ tag)) = some (r.name, tag) := by
      refine Text.cutFirst?_eq_some_iff.2 ⟨?_, r.name_chars.2.1⟩
      rw [String.toList_append, String.toList_append]
      rfl
    rw [Option.map_some, Option.getD_some, hcut, Option.map_some]

end Reference

theorem tag?_eq (image : String) :
    tag? image = if Text.holds image "$" then none else
      (Text.cutFirst? ':' (Text.behindLast '/' (Text.beforeFirst '@' image))).map (·.2) := rfl

theorem holds_dollar_iff {image : String} : Text.holds image "$" = true ↔ '$' ∈ image.toList := by
  rw [Text.holds, Text.occurs_iff]
  exact List.singleton_infix_iff '$' image.toList

/-- **The three cuts get the tag of every reference back.** -/
theorem tag?_text (r : Reference) (hfixed : '$' ∉ r.text.toList) : tag? r.text = r.tag := by
  rw [tag?_eq, if_neg (mt holds_dollar_iff.1 hfixed), r.beforeFirst_text, r.behindLast_text,
    r.cutFirst?_text]

/-- A tag is a part of the text that it is read from, on one side of each cut. -/
theorem mem_tag {image tag : String} (h : tag? image = some tag) {c : Char} (hc : c ∈ tag.toList) :
    c ∈ image.toList ∧ c ≠ '/' ∧ c ≠ '@' ∧ c ≠ '$' := by
  rw [tag?_eq] at h
  split at h
  · exact nomatch h
  · rename_i hfixed
    obtain ⟨⟨name, _⟩, hcut, rfl⟩ := Option.map_eq_some_iff.1 h
    have hbehind : c ∈ (Text.behindLast '/' (Text.beforeFirst '@' image)).toList := by
      rw [(Text.cutFirst?_eq_some_iff.1 hcut).1]
      exact List.mem_append_right _ (List.mem_cons_of_mem _ hc)
    obtain ⟨hbefore, hslash⟩ := Text.mem_behindLast hbehind
    obtain ⟨himage, hat⟩ := Text.mem_beforeFirst hbefore
    exact ⟨himage, hslash, hat, ne_of_mem_of_not_mem himage (mt holds_dollar_iff.2 hfixed)⟩

/-! ## Instructions -/

/-- The tag of the image that an instruction starts from, with its line. -/
def imageTag? (i : Instruction) : Option (UInt32 × String) :=
  if i.is "FROM" then ((firstOperand? i).bind tag?).map fun tag => (i.line, tag) else none

theorem imageTags_eq (text : String) : imageTags text = (instructions text).filterMap imageTag? := rfl

theorem imageTag?_eq_some_iff {i : Instruction} {x : UInt32 × String} :
    imageTag? i = some x ↔ i.is "FROM" = true ∧
      ∃ image, firstOperand? i = some image ∧ tag? image = some x.2 ∧ i.line = x.1 := by
  rw [imageTag?]
  split
  · rename_i hfrom
    simp only [hfrom, true_and, Option.map_eq_some_iff, Option.bind_eq_some_iff]
    constructor
    · rintro ⟨tag, ⟨image, himage, htag⟩, rfl⟩
      exact ⟨image, himage, htag, rfl⟩
    · rintro ⟨image, himage, htag, hline⟩
      exact ⟨x.2, ⟨image, himage, htag⟩, Prod.ext hline rfl⟩
  · rename_i hother
    exact ⟨fun h => (nomatch h), fun h => absurd h.1 hother⟩

/-- A `FROM` instruction in its words: options, a reference without
variables, and what may stand behind it. -/
structure Start where
  keyword : String
  options : List String
  image : Reference
  others : List String
  keyword_from : Text.lower keyword = "from"
  options_dashed : ∀ option ∈ options, Text.beginsWith option "--" = true
  image_undashed : Text.beginsWith image.text "--" = false
  image_fixed : '$' ∉ image.text.toList

namespace Start

variable (s : Start) {i : Instruction}

def words : List String := s.keyword :: (s.options ++ s.image.text :: s.others)

/-- The first word that is no option is the reference. -/
theorem firstOperand?_eq (h : Text.words i.text = s.words) : firstOperand? i = some s.image.text := by
  have hoptions : s.options.find? (fun option => !Text.beginsWith option "--") = none :=
    List.find?_eq_none.2 fun option hoption => by rw [s.options_dashed option hoption]; decide
  have himage : (!Text.beginsWith s.image.text "--") = true := by rw [s.image_undashed]; rfl
  rw [firstOperand?, Instruction.arguments, h, words, List.tail_cons, List.find?_append, hoptions,
    Option.none_or]
  exact List.find?_cons_of_pos himage

theorem is_from (h : Text.words i.text = s.words) : i.is "FROM" = true := by
  have hupper : Text.upper s.keyword = "FROM" :=
    (Text.upper_eq_of_lower_eq (by decide) s.keyword_from).trans (by decide)
  rw [Instruction.is, Instruction.keyword, h]
  exact beq_iff_eq.2 hupper

/-- **An instruction of these words gives the tag of the reference**, if it has one. -/
theorem imageTag?_eq (h : Text.Spaced s.words i.text) :
    imageTag? i = s.image.tag.map fun tag => (i.line, tag) := by
  have hwords : Text.words i.text = s.words := Text.words_eq_iff.2 h
  rw [imageTag?, if_pos (s.is_from hwords), s.firstOperand?_eq hwords, Option.bind_some,
    tag?_text _ s.image_fixed]

end Start

/-! ## Build files -/

/-- Lines that do not count leave nothing behind. -/
theorem counted_eq_nil {ls : List String} (h : ∀ l ∈ ls, Instruction.counts (Text.trim l) = false)
    (i : Nat) : Instruction.counted (Text.numbered i ls) = [] := by
  induction ls generalizing i with
  | nil => rfl
  | cons l ls ih =>
    obtain ⟨hl, hls⟩ := List.forall_mem_cons.1 h
    rw [Text.numbered_cons, Instruction.counted_cons, if_neg (Bool.eq_false_iff.1 hl), ih hls]

/-- A line that alone counts and does not go on is the only instruction. -/
theorem instructions_eq_singleton {before after : List String} {line : String}
    (hlines : ∀ l ∈ before ++ line :: after, Text.OneLine l)
    (hothers : ∀ l ∈ before ++ after, Instruction.counts (Text.trim l) = false)
    (hcounts : Instruction.counts (Text.trim line) = true)
    (hends : Instruction.continues (Text.trim line) = false) :
    instructions ("\n".intercalate (before ++ line :: after)) =
      [⟨Text.lineNumber before.length, Text.trim line⟩] := by
  obtain ⟨hbefore, hafter⟩ := List.forall_mem_append.1 hothers
  have hphysical : physicalLines ("\n".intercalate (before ++ line :: after)) =
      [⟨Text.lineNumber before.length, Text.trim line⟩] := by
    rw [physicalLines_eq, Instruction.counted_lines_intercalate hlines, Text.numbered_append,
      Instruction.counted_append, counted_eq_nil hbefore, Text.numbered_cons,
      Instruction.counted_cons, if_pos hcounts, counted_eq_nil hafter, Nat.zero_add, List.nil_append]
  refine List.map_injective_iff.2 (fun _ _ => Option.some.inj) ?_
  rw [map_some_instructions, hphysical, Instruction.map_ofGroup?_groups_of_not_continues]
  exact List.forall_mem_singleton.2 hends

/-- A line counts if its first word does not begin a comment. -/
theorem counts_trim_of_words {line word : String} {others : List String}
    (hwords : Text.words line = word :: others) (hword : Text.beginsWith word "#" = false) :
    Instruction.counts (Text.trim line) = true := by
  have htrim : Text.words (Text.trim line) = word :: others := (Text.words_trim line).trans hwords
  refine Instruction.counts_iff.2 ⟨fun hempty => ?_, Bool.eq_false_iff.2 fun hcomment => ?_⟩
  · rw [hempty] at htrim
    exact nomatch htrim
  · obtain ⟨rest, hrest, hbehind, -⟩ :=
      (Text.words_eq_iff.1 htrim).exists_rest (Text.isBlank_head?_trim line)
    have hstop : ∀ c ∈ rest.head?, c ∉ "#".toList := by
      intro c hc hmem
      obtain rfl := List.mem_singleton.1 hmem
      exact absurd (hbehind '#' hc) (by decide)
    rw [Text.beginsWith_iff, hrest, Text.prefix_append_iff_of_stop hstop, ← Text.beginsWith_iff,
      hword] at hcomment
    exact nomatch hcomment

/-- No comment begins with a word that begins none in lower case. -/
theorem beginsWith_hash_of_lower {word lowered : String} (h : Text.lower word = lowered)
    (hlowered : Text.beginsWith lowered "#" = false) : Text.beginsWith word "#" = false := by
  have hhash : Text.lower "#" = "#" := by decide
  refine Bool.eq_false_iff.2 fun hcomment => ?_
  have hlower := Text.beginsWith_lower hcomment
  rw [hhash, h, hlowered] at hlower
  exact nomatch hlower

/-- The line of a `FROM` instruction counts and does not go on. -/
theorem Start.counts_trim (s : Start) {line : String} (h : Text.Spaced s.words line)
    (hplain : ∀ w ∈ s.words, '\\' ∉ w.toList) :
    Instruction.counts (Text.trim line) = true ∧
      Instruction.continues (Text.trim line) = false := by
  refine ⟨counts_trim_of_words (Text.words_eq_iff.2 h) ?_, Bool.eq_false_iff.2 fun hgoes => ?_⟩
  · exact beginsWith_hash_of_lower s.keyword_from (by decide)
  · obtain ⟨start, hstart⟩ := Text.endsWith_iff.1 hgoes
    have hmem : '\\' ∈ (Text.trim line).toList := by
      rw [hstart, String.toList_append]
      exact List.mem_append_right _ List.mem_cons_self
    obtain ⟨word, hword, hin⟩ := (Text.spaced_trim_iff.2 h).exists_word hmem rfl
    obtain ⟨w, hw, rfl⟩ := List.mem_map.1 hword
    exact hplain w hw hin

/-- The tags on the line of an instruction are its own, as long as there are
fewer lines than numbers. -/
theorem filter_imageTags {text : String} {i : Instruction}
    (hfew : (Text.lines text).length < UInt32.size) (hi : i ∈ instructions text) :
    (imageTags text).filter (fun x => x.1 = i.line) = (imageTag? i).toList := by
  rw [imageTags_eq, List.filterMap_eq_flatMap_toList]
  refine filter_flatMap_instructions hfew hi fun j x hx => ?_
  obtain ⟨-, image, -, -, hline⟩ := imageTag?_eq_some_iff.1 (Option.mem_toList.1 hx)
  rw [hline]

/-- **The tags of a build file are those of the references that it starts
from.** A file whose only line that counts is a `FROM` of any case, with
blanks of any kind and number between its words, gives the tag of its
reference, or nothing if there is none, wherever the line stands. In any file
a `FROM` instruction of such words gives it for its line, and just that as long
as there are fewer lines than numbers. And a tag that is read from any file at
all holds no slash, no `@`, no `$` and no blank. -/
theorem imageTags_decode_references :
    (∀ s : Start, (∀ w ∈ s.words, '\\' ∉ w.toList) →
      ∀ (before : List String) (line : String) (after : List String),
        (∀ l ∈ before ++ line :: after, Text.OneLine l) →
        (∀ l ∈ before ++ after,
          Text.trim l = "" ∨ Text.beginsWith (Text.trim l) "#" = true) →
        Text.Spaced s.words line →
        imageTags ("\n".intercalate (before ++ line :: after)) =
          (s.image.tag.map fun tag => (Text.lineNumber before.length, tag)).toList) ∧
    (∀ (s : Start) (text : String), ∀ i ∈ instructions text, Text.Spaced s.words i.text →
      (∀ tag ∈ s.image.tag, (i.line, tag) ∈ imageTags text) ∧
      ((Text.lines text).length < UInt32.size →
        (imageTags text).filter (fun x => x.1 = i.line) =
          (s.image.tag.map fun tag => (i.line, tag)).toList)) ∧
    ∀ (text : String) (line : UInt32) (tag : String), (line, tag) ∈ imageTags text →
      ∀ c ∈ tag.toList, c ≠ '/' ∧ c ≠ '@' ∧ c ≠ '$' ∧ Text.isBlank c = false := by
  refine ⟨?alone, ?anywhere, ?characters⟩
  case alone =>
    intro s hplain before line after hlines hothers hspaced
    obtain ⟨hcounts, hends⟩ := s.counts_trim hspaced hplain
    have htag : imageTag? ⟨Text.lineNumber before.length, Text.trim line⟩ =
        s.image.tag.map fun tag => (Text.lineNumber before.length, tag) :=
      s.imageTag?_eq (Text.spaced_trim_iff.2 hspaced)
    rw [imageTags_eq, instructions_eq_singleton hlines
      (fun l hl => Instruction.counts_eq_false (hothers l hl)) hcounts hends, List.filterMap_cons, htag]
    cases s.image.tag <;> rfl
  case anywhere =>
    intro s text i hi hspaced
    have htag := s.imageTag?_eq hspaced
    refine ⟨fun tag hmem => ?_, fun hfew => by rw [filter_imageTags hfew hi, htag]⟩
    rw [imageTags_eq]
    refine List.mem_filterMap.2 ⟨i, hi, ?_⟩
    rw [htag, Option.mem_def.1 hmem, Option.map_some]
  case characters =>
    intro text line tag hmem c hc
    rw [imageTags_eq] at hmem
    obtain ⟨i, -, hi⟩ := List.mem_filterMap.1 hmem
    obtain ⟨-, image, himage, htag, -⟩ := imageTag?_eq_some_iff.1 hi
    obtain ⟨hin, hslash, hat, hdollar⟩ := mem_tag htag hc
    have hword : image ∈ Text.words i.text := List.mem_of_mem_tail (List.mem_of_find?_eq_some himage)
    exact ⟨hslash, hat, hdollar, Text.isBlank_of_mem_words hword c hin⟩

/-- A start from a registry with a port, with a colon in the tag and a slash
in the digest, and with an option and the name of a stage around it. -/
def portedStart : Start where
  keyword := "From"
  options := ["--platform=p"]
  image :=
    { place := "r:5/t/", name := "app", tag := some "1.2:x", digest := some "d:a/b"
      place_ends := by decide
      place_chars := by decide
      name_ne_empty := by decide
      name_chars := by decide
      tag_chars := by decide }
  others := ["AS", "b"]
  keyword_from := by decide
  options_dashed := by decide
  image_undashed := by decide
  image_fixed := by decide

/-- The tag is read off one line between comments, and off two lines behind
another start. -/
theorem imageTags_decode_references_portedStart :
    let line := "From\t--platform=p  r:5/t/app:1.2:x@d:a/b AS b\r"
    let text := "FROM scratch\nFrom --platform=p \\\nr:5/t/app:1.2:x@d:a/b AS b\n"
    imageTags ("\n".intercalate (["# base", ""] ++ line :: ["\t# end"])) = [(3, "1.2:x")] ∧
    (imageTags text).filter (fun x => x.1 = 2) = [(2, "1.2:x")] ∧
    ∀ c ∈ "1.2:x".toList, c ≠ '/' ∧ c ≠ '@' ∧ c ≠ '$' ∧ Text.isBlank c = false := by
  intro line text
  obtain ⟨halone, hanywhere, hcharacters⟩ := imageTags_decode_references
  have hline : imageTags ("\n".intercalate (["# base", ""] ++ line :: ["\t# end"])) = [(3, "1.2:x")] :=
    halone portedStart (by decide) ["# base", ""] line ["\t# end"] (by decide) (by decide)
      (Text.words_eq_iff.1 (by decide))
  refine ⟨hline, ?_, hcharacters _ 3 "1.2:x" (hline ▸ List.mem_singleton.2 rfl)⟩
  exact (hanywhere portedStart text
    ⟨2, "From --platform=p r:5/t/app:1.2:x@d:a/b AS b"⟩ (by decide)
    (Text.words_eq_iff.1 (by decide))).2 (by decide)

end Dockerfile

end DeployLint
