import Mathlib.Data.List.InsertIdx
import DeployLint.Proofs.Yaml.Scanners
import DeployLint.Yaml.Token.Stream

/-!
# YAML — the tokens of a whole text

A step of a scan takes a character at least, or it is the last one. So the
steps that a scan is given are enough, and its tokens are those of the whole
text (`Tokens.Whole`): the last one ends the stream, unless a fault ends them,
and no other one does.
-/

namespace DeployLint

namespace Yaml

/-- What a scan of a whole text gives. -/
inductive Tokens.Whole : List Token × Option Fault → Prop
  /-- The last token ends the stream. -/
  | ended (before : List Token) (mark : Mark) : (∀ t ∈ before, t.Inner) →
      Whole (before ++ [⟨.streamEnd, mark, mark⟩], none)
  /-- A fault is behind the tokens. -/
  | refused (tokens : List Token) (fault : Fault) : (∀ t ∈ tokens, t.Inner) →
      Whole (tokens, some fault)

/-- Tokens in front of those of a whole text. -/
theorem Tokens.Whole.append {now tokens : List Token} {fault : Option Fault}
    (hnow : ∀ t ∈ now, t.Inner) (h : Whole (tokens, fault)) : Whole (now ++ tokens, fault) := by
  cases h with
  | ended before mark hbefore =>
    rw [← List.append_assoc]
    exact .ended _ mark (List.forall_mem_append.2 ⟨hnow, hbefore⟩)
  | refused _ fault htokens => exact .refused _ fault (List.forall_mem_append.2 ⟨hnow, htokens⟩)

namespace Lexer

variable {l l' : Lexer} {t : Token} {kind : TokenKind} {P : Lexer → Prop} {c : Cursor}
variable {K : Mark → Prop}

/-! ## Results -/

/-- A scan that, if it does not fail, reaches a state of a kind. -/
def Reaches (x : Result) (P : Lexer → Prop) : Prop := ∀ l, x = .ok l → P l

theorem reaches_ok (h : P l) : Reaches (.ok l) P := by
  intro l' hl'
  cases hl'
  exact h

theorem reaches_error (f : Fault) : Reaches (.error f) P := fun _ h => (nomatch h)

theorem reaches_bind {Q : Lexer → Prop} {x : Result} {f : Lexer → Result} (hx : Reaches x P)
    (hf : ∀ l, P l → Reaches (f l) Q) : Reaches (x >>= f) Q := by
  intro l' h
  obtain ⟨l, hl, hl'⟩ := bind_eq_ok_iff.1 h
  exact hf l (hx l hl) l' hl'

/-- The branches of a choice may use how it was made. -/
theorem reaches_ite {p : Prop} [Decidable p] {x y : Result} (hx : p → Reaches x P)
    (hy : ¬ p → Reaches y P) : Reaches (if p then x else y) P := by
  split
  · rename_i hp
    exact hx hp
  · rename_i hp
    exact hy hp

/-! ## States -/

/-- What all possible keys of a state are. -/
def Keys (l : Lexer) (K : Mark → Prop) : Prop := ∀ k, some k ∈ l.key :: l.outerKeys → K k.mark

/-- A state at a cursor, with no token that ends the stream among those held
back, and with possible keys of a kind only. -/
structure Holds (c : Cursor) (K : Mark → Prop) (l : Lexer) : Prop where
  cursor : l.cursor = c
  unended : l.ended = false
  inner : ∀ t ∈ l.held, t.Inner
  keys : l.Keys K

/-- Between two tokens every possible key is in front of the cursor. -/
abbrev Sound (l : Lexer) : Prop := Holds l.cursor (·.Before l.mark) l

/-- Within a token a possible key may begin where the token does. -/
abbrev Within (c : Cursor) (l : Lexer) : Prop := Holds c (·.UpTo c.mark) l

/-- A state between two tokens, behind one that began at a cursor. -/
structure Behind (c : Cursor) (l : Lexer) : Prop where
  before : c.Before l.cursor
  sound : l.Sound

/-- A state at the end of the text, with the token that ends the stream. -/
structure Ended (l : Lexer) : Prop where
  ended : l.ended = true
  held : ∃ before mark, l.held = before ++ [⟨.streamEnd, mark, mark⟩] ∧ ∀ t ∈ before, t.Inner

theorem Holds.sound (h : Holds c (·.Before c.mark) l) : l.Sound := by
  obtain rfl := h.cursor
  exact h

theorem Sound.within (h : l.Sound) : Within l.cursor l :=
  ⟨rfl, h.unended, h.inner, fun k hk => .inr (h.keys k hk)⟩

namespace Holds

/-- What else a state holds does not matter, and keys may be left out. -/
theorem update (h : Holds c K l) (hcursor : l'.cursor = l.cursor) (hended : l'.ended = l.ended)
    (hheld : l'.held = l.held)
    (hkeys : ∀ k, some k ∈ l'.key :: l'.outerKeys → some k ∈ l.key :: l.outerKeys) :
    Holds c K l' := by
  refine ⟨hcursor.trans h.cursor, hended.trans h.unended, ?_, fun k hk => h.keys k (hkeys k hk)⟩
  rw [hheld]
  exact h.inner

theorem emit (h : Holds c K l) (ht : t.Inner) : Holds c K (l.emit t) :=
  ⟨h.cursor, h.unended, List.forall_mem_append.2 ⟨h.inner, List.forall_mem_singleton.2 ht⟩, h.keys⟩

theorem insert (h : Holds c K l) (number : Nat) (ht : t.Inner) : Holds c K (l.insert number t) := by
  refine ⟨h.cursor, h.unended, fun u hu => ?_, h.keys⟩
  rcases List.eq_or_mem_of_mem_insertIdx hu with rfl | hu
  · exact ht
  · exact h.inner u hu

theorem openBlock (h : Holds c K l) (column : Nat) (number : Option Nat) (kind : TokenKind)
    (hkind : kind ≠ .streamEnd) (mark : Mark) :
    Holds c K (l.openBlock column number kind mark) := by
  have hdeeper : Holds c K { l with outer := l.column :: l.outer, column := some column } :=
    h.update rfl rfl rfl fun _ => id
  rw [Lexer.openBlock]
  split
  · cases number with
    | none => exact hdeeper.emit hkind
    | some n => exact hdeeper.insert n hkind
  · exact h

theorem closeFrom (h : Holds c K l) (column : Option Nat) (outer : List (Option Nat)) :
    Holds c K (l.closeFrom column outer) := by
  induction outer generalizing l with
  | nil => exact h
  | cons outer rest ih =>
    rw [Lexer.closeFrom]
    split
    · have hclosed := h.emit (t := ⟨.blockEnd, l.mark, l.mark⟩) TokenKind.noConfusion
      exact ih (hclosed.update rfl rfl rfl fun _ => id)
    · exact h

theorem closeBlocks (h : Holds c K l) (column : Option Nat) : Holds c K (l.closeBlocks column) := by
  rw [Lexer.closeBlocks]
  split
  · exact h.closeFrom column l.outer
  · exact h

/-- A key that is given up is no possible key. -/
theorem dropKey (h : Holds c K l) : Reaches l.dropKey (Holds c K) := by
  rw [Lexer.dropKey]
  split
  · refine reaches_ite (fun _ => reaches_error _) fun _ => reaches_ok ?_
    exact h.update rfl rfl rfl fun k hk =>
      List.mem_cons_of_mem _ ((List.mem_cons.1 hk).resolve_left (Option.some_ne_none k))
  · exact reaches_ok h

/-- A key that is noted begins at the cursor. -/
theorem noteKey (h : Holds c K l) (hc : K c.mark) : Reaches l.noteKey (Holds c K) := by
  rw [Lexer.noteKey]
  split
  · refine reaches_bind h.dropKey fun l' hl' => reaches_ok ?_
    refine ⟨hl'.cursor, hl'.unended, hl'.inner, fun k hk => ?_⟩
    rcases List.mem_cons.1 hk with hk | hk
    · cases hk
      rw [Lexer.mark, h.cursor]
      exact hc
    · exact hl'.keys k (List.mem_cons_of_mem _ hk)
  · exact reaches_ok h

theorem atMargin (h : Holds c K l) : Reaches l.atMargin (Holds c K) :=
  reaches_bind (h.closeBlocks none).dropKey fun _ hl =>
    reaches_ok (hl.update rfl rfl rfl fun _ => id)

end Holds

namespace Within

/-- A token that ends further on is behind the cursor, and so are the keys. -/
theorem behind (h : Within c l) (ht : t.Inner) {c' : Cursor} (hc' : c.Before c') :
    Behind c ({ l with cursor := c' }.emit t) := by
  refine ⟨hc', rfl, h.unended, (h.emit ht).inner, fun k hk => ?_⟩
  exact (h.keys k hk).trans_before hc'.mark

theorem take {length : Nat} (h : Within c l) (hc : c.rest ≠ []) (hkind : kind ≠ .streamEnd) :
    Behind c (l.take kind (length + 1)) := by
  have hinner : Token.Inner ⟨kind, l.mark, (l.cursor.skip (length + 1)).mark⟩ := hkind
  refine h.behind hinner ?_
  rw [h.cursor]
  exact (c.past_skip length).before hc

theorem scan {scanner : Scan Token} (h : Within c l) (hc : c.rest ≠ [])
    (hscan : Scan.Forward scanner Token.Inner) : Reaches (l.scan scanner) (Behind c) := by
  intro l' hl'
  obtain ⟨⟨t, cursor⟩, ht, hl'⟩ := bind_eq_ok_iff.1 hl'
  cases hl'
  rw [StateT.run, h.cursor] at ht
  obtain ⟨hbefore, hinner⟩ := hscan.movesFrom hc t cursor ht
  exact h.behind hinner hbefore

/-! ## Single tokens -/

theorem directive (h : Within c l) (hc : c.rest ≠ []) : Reaches l.directive (Behind c) :=
  reaches_bind h.atMargin fun _ hl => scan hl hc Scan.forward_directive

theorem documentIndicator (h : Within c l) (hc : c.rest ≠ []) (hkind : kind ≠ .streamEnd) :
    Reaches (l.documentIndicator kind) (Behind c) :=
  reaches_bind h.atMargin fun _ hl => reaches_ok (take hl hc hkind)

/-- The innermost key becomes one of the keys around. -/
theorem flowStart (h : Within c l) (hc : c.rest ≠ []) (hkind : kind ≠ .streamEnd) :
    Reaches (l.flowStart kind) (Behind c) := by
  refine reaches_bind (h.noteKey (.inl rfl)) fun l hl => reaches_ok (take ?_ hc hkind)
  exact hl.update rfl rfl rfl fun k hk => (List.mem_cons.1 hk).resolve_left (Option.some_ne_none k)

/-- One of the keys around becomes the innermost. -/
theorem flowEnd (h : Within c l) (hc : c.rest ≠ []) (hkind : kind ≠ .streamEnd) :
    Reaches (l.flowEnd kind) (Behind c) := by
  refine reaches_bind h.dropKey fun l hl => reaches_ok (take ?_ hc hkind)
  split
  · rename_i hkeys
    exact hl.update rfl rfl rfl fun k hk => hkeys ▸ List.mem_cons_of_mem _ hk
  · exact hl.update rfl rfl rfl fun _ => id

theorem flowEntry (h : Within c l) (hc : c.rest ≠ []) : Reaches l.flowEntry (Behind c) :=
  reaches_bind h.dropKey fun _ hl => reaches_ok
    (take (hl.update rfl rfl rfl fun _ => id) hc TokenKind.noConfusion)

theorem blockEntry (h : Within c l) (hc : c.rest ≠ []) : Reaches l.blockEntry (Behind c) := by
  have hopen := h.openBlock l.mark.column none .blockSequenceStart TokenKind.noConfusion l.mark
  refine reaches_ite (fun _ => reaches_error _) fun _ => reaches_bind hopen.dropKey fun l hl => ?_
  exact reaches_ok (take (hl.update rfl rfl rfl fun _ => id) hc TokenKind.noConfusion)

theorem explicitKey (h : Within c l) (hc : c.rest ≠ []) : Reaches l.explicitKey (Behind c) := by
  have hopen := h.openBlock l.mark.column none .blockMappingStart TokenKind.noConfusion l.mark
  refine reaches_ite (fun _ => reaches_error _) fun _ => reaches_bind hopen.dropKey fun l hl => ?_
  exact reaches_ok (take (hl.update rfl rfl rfl fun _ => id) hc TokenKind.noConfusion)

theorem value (h : Within c l) (hc : c.rest ≠ []) : Reaches l.value (Behind c) := by
  rw [Lexer.value]
  split
  · rename_i k hkey
    have hinsert := h.insert k.number (t := ⟨.key, k.mark, k.mark⟩) TokenKind.noConfusion
    have hopen := hinsert.openBlock k.mark.column (some k.number) .blockMappingStart
      TokenKind.noConfusion k.mark
    refine reaches_ok (take (hopen.update rfl rfl rfl fun k' hk' => ?_) hc TokenKind.noConfusion)
    exact List.mem_cons_of_mem _ ((List.mem_cons.1 hk').resolve_left (Option.some_ne_none k'))
  · have hopen := h.openBlock l.mark.column none .blockMappingStart TokenKind.noConfusion l.mark
    refine reaches_ite (fun _ => reaches_error _) fun _ => reaches_ok ?_
    exact take (hopen.update rfl rfl rfl fun _ => id) hc TokenKind.noConfusion

theorem nodePart {scanner : Scan Token} (h : Within c l) (hc : c.rest ≠ [])
    (hscan : Scan.Forward scanner Token.Inner) : Reaches (l.nodePart scanner) (Behind c) :=
  reaches_bind (h.noteKey (.inl rfl)) fun _ hl => scan (hl.update rfl rfl rfl fun _ => id) hc hscan

theorem blockScalar (h : Within c l) (hc : c.rest ≠ []) (fold : Bool) :
    Reaches (l.blockScalar fold) (Behind c) :=
  reaches_bind h.dropKey fun l hl =>
    scan (hl.update rfl rfl rfl fun _ => id) hc (Scan.forward_block fold l.column)

theorem plainScalar {x : Char} (h : Within c l) (hx : Scan.BeginsPlain c x) :
    Reaches l.plainScalar (Behind c) := by
  refine reaches_bind (h.noteKey (.inl rfl)) fun l hl l' hl' => ?_
  obtain ⟨⟨⟨t, broken⟩, cursor⟩, ht, hl'⟩ := bind_eq_ok_iff.1 hl'
  cases hl'
  rw [StateT.run, hl.cursor] at ht
  obtain ⟨hbefore, hinner⟩ := Scan.before_plain hx (t, broken) cursor ht
  have hbroken : Within c { l with keyAllowed := broken } := hl.update rfl rfl rfl fun _ => id
  exact hbroken.behind hinner hbefore

end Within

theorem isIndicator_of_isFlowMark {x : Char} (h : Scan.isFlowMark x = true) :
    isIndicator x = true := by
  simp only [Scan.isFlowMark, Bool.or_eq_true, decide_eq_true_eq] at h
  rcases h with (((rfl | rfl) | rfl) | rfl) | rfl <;> decide

/-- A plain scalar begins at a cursor where the scan takes one. -/
theorem beginsPlain {x : Char} (hx : l.cursor.ahead? 0 = some x)
    (hline : l.cursor.onDocumentIndicator = false) (hplain : l.onPlainScalar x = true) :
    Scan.BeginsPlain l.cursor x := by
  simp only [onPlainScalar, Bool.or_eq_true, Bool.not_eq_true', Bool.and_eq_true,
    decide_eq_true_eq] at hplain
  rcases hplain with (hother | ⟨rfl, -⟩) | ⟨⟨-, rfl | rfl⟩, hspace⟩
  · obtain ⟨hspace, hindicator⟩ := Bool.or_eq_false_iff.1 hother
    have hnot : ¬ isIndicator x = true := Bool.eq_false_iff.1 hindicator
    have hcomment : x ≠ '#' := fun h => hnot (h ▸ by decide)
    have hcolon : x ≠ ':' := fun h => hnot (h ▸ by decide)
    refine ⟨hx, hline, hcomment, hspace, ?_, ?_⟩
    · rw [decide_eq_false hcolon, Bool.false_and]
    · exact Bool.eq_false_iff.2 fun h => hnot (isIndicator_of_isFlowMark h)
  · exact ⟨hx, hline, by decide, by decide, rfl, by decide⟩
  · exact ⟨hx, hline, by decide, by decide, rfl, by decide⟩
  · exact ⟨hx, hline, by decide, by decide, by rw [hspace, Bool.and_false], by decide⟩

/-! ## All tokens -/

/-- **Every token is behind the cursor that it begins at**, and no character
begins a token that ends the stream. -/
theorem Sound.tokenAt (hl : l.Sound) {x : Char} (hx : l.cursor.ahead? 0 = some x) :
    Reaches (l.tokenAt x) (Behind l.cursor) := by
  have h := hl.within
  have hc := Cursor.rest_ne_nil_of_ahead? hx
  have hindicator : (if x = '-' then TokenKind.documentStart else .documentEnd) ≠ .streamEnd := by
    split
    · exact TokenKind.noConfusion
    · exact TokenKind.noConfusion
  refine reaches_ite (fun _ => h.directive hc) fun _ => ?_
  refine reaches_ite (fun _ => h.documentIndicator hc hindicator) fun hline => ?_
  refine reaches_ite (fun _ => h.flowStart hc TokenKind.noConfusion) fun _ => ?_
  refine reaches_ite (fun _ => h.flowStart hc TokenKind.noConfusion) fun _ => ?_
  refine reaches_ite (fun _ => h.flowEnd hc TokenKind.noConfusion) fun _ => ?_
  refine reaches_ite (fun _ => h.flowEnd hc TokenKind.noConfusion) fun _ => ?_
  refine reaches_ite (fun _ => h.flowEntry hc) fun _ => ?_
  refine reaches_ite (fun _ => h.blockEntry hc) fun _ => ?_
  refine reaches_ite (fun _ => h.explicitKey hc) fun _ => ?_
  refine reaches_ite (fun _ => h.value hc) fun _ => ?_
  refine reaches_ite (fun _ => h.nodePart hc (Scan.forward_anchor true)) fun _ => ?_
  refine reaches_ite (fun _ => h.nodePart hc (Scan.forward_anchor false)) fun _ => ?_
  refine reaches_ite (fun _ => h.nodePart hc (Scan.forward_tag _)) fun _ => ?_
  refine reaches_ite (fun _ => h.blockScalar hc false) fun _ => ?_
  refine reaches_ite (fun _ => h.blockScalar hc true) fun _ => ?_
  refine reaches_ite (fun _ => h.nodePart hc (Scan.forward_quoted true)) fun _ => ?_
  refine reaches_ite (fun _ => h.nodePart hc (Scan.forward_quoted false)) fun _ => ?_
  -- A plain scalar alone has no indicator in front of it. That it takes a character follows
  -- from its own condition, and from the choice of a line's `---` made above.
  refine reaches_ite (fun hplain => ?_) fun _ => reaches_error _
  exact h.plainScalar (beginsPlain hx (Bool.eq_false_iff.2 hline) hplain)

/-- A sound state whose cursor moves on is sound. -/
theorem Sound.onward (hl : l.Sound) (hc : l.cursor.UpTo c) (allowed : Bool) :
    { l with cursor := c, keyAllowed := allowed }.Sound := by
  refine ⟨rfl, hl.unended, hl.inner, fun k hk => ?_⟩
  rcases hc with rfl | hc
  · exact hl.keys k hk
  · exact (hl.keys k hk).trans hc.mark

/-- The blanks of a line and a comment, behind a mark for the order of bytes. -/
theorem upTo_lineStart (c : Cursor) (p : Char → Bool) :
    c.UpTo (((if c.mark.index == 0 && c.isAt 0 '\uFEFF' then c.next else c).skipClass
      p).skipComment) := by
  have hstart : c.UpTo (if c.mark.index == 0 && c.isAt 0 '\uFEFF' then c.next else c) := by
    split
    · exact c.upTo_next
    · exact .refl c
  exact hstart.trans ((Cursor.upTo_skipClass p _).trans (Cursor.upTo_skipComment _))

/-- Between two tokens a scan does not go back. -/
theorem Sound.skipBetween (hl : l.Sound) (fuel : Nat) :
    (l.skipBetween fuel).Sound ∧ l.cursor.UpTo (l.skipBetween fuel).cursor := by
  induction fuel generalizing l with
  | zero => exact ⟨hl, .refl _⟩
  | succ fuel ih =>
    have hline := upTo_lineStart l.cursor fun x =>
      x = ' ' || ((l.flow != 0 || !l.keyAllowed) && x = '\t')
    refine iteInduction (motive := fun l' : Lexer => l'.Sound ∧ l.cursor.UpTo l'.cursor)
      (fun _ => ?_) fun _ => ⟨hl.onward hline l.keyAllowed, hline⟩
    have hbreak := hline.trans (Cursor.upTo_takeBreak _)
    obtain ⟨hsound, hupTo⟩ := ih (hl.onward hbreak (l.keyAllowed || l.flow == 0))
    exact ⟨hsound, hbreak.trans hupTo⟩

theorem refresh_eq_ok_some {o : Option PossibleKey} {k : PossibleKey}
    (h : l.refresh o = .ok (some k)) : o = some k ∧ l.isStale k = false := by
  cases o with
  | none => exact nomatch h
  | some k' =>
    rw [refresh] at h
    split at h
    · rename_i hstale
      obtain rfl := Option.some.inj (Except.ok.inj h)
      exact ⟨rfl, by simpa using hstale⟩
    · split at h
      · exact nomatch h
      · exact nomatch h

/-- Possible keys that are given up are none, and those that are left are not
stale. Nothing else changes. -/
theorem reaches_refreshKeys (l : Lexer) :
    Reaches l.refreshKeys fun l' => (l'.cursor = l.cursor ∧ l'.held = l.held ∧ l'.ended = l.ended) ∧
      ∀ k, some k ∈ l'.key :: l'.outerKeys → some k ∈ l.key :: l.outerKeys ∧
        l.isStale k = false := by
  intro l' hl'
  obtain ⟨outer, houter, hl'⟩ := bind_eq_ok_iff.1 hl'
  obtain ⟨key, hkey, hl'⟩ := bind_eq_ok_iff.1 hl'
  cases hl'
  refine ⟨⟨rfl, rfl, rfl⟩, fun k hk => ?_⟩
  rcases List.mem_cons.1 hk with rfl | hk
  · obtain ⟨hmem, hstale⟩ := refresh_eq_ok_some hkey
    exact ⟨List.mem_cons.2 (.inl hmem.symm), hstale⟩
  · obtain ⟨o, ho, hrefresh⟩ := exists_of_mem_mapM houter (List.mem_reverse.1 hk)
    obtain ⟨rfl, hstale⟩ := refresh_eq_ok_some hrefresh
    exact ⟨List.mem_cons_of_mem _ (List.mem_reverse.1 ho), hstale⟩

theorem Sound.refreshKeys (hl : l.Sound) :
    Reaches l.refreshKeys fun l' => l'.Sound ∧ l'.cursor = l.cursor := by
  intro l' hl'
  obtain ⟨⟨hcursor, hheld, hended⟩, hkeys⟩ := reaches_refreshKeys l l' hl'
  refine ⟨⟨rfl, hended.trans hl.unended, hheld ▸ hl.inner, fun k hk => ?_⟩, hcursor⟩
  rw [mark, hcursor]
  exact hl.keys k (hkeys k hk).1

/-- The line of the end of the stream is behind every mark of the text. -/
theorem line_lt_of_before {m stop : Mark} (h : m.Before stop) :
    m.line < (if stop.column == 0 then stop else ⟨stop.index, stop.line + 1, 0⟩ : Mark).line := by
  rw [Mark.Before] at h
  split
  · rename_i hcolumn
    have hcolumn : stop.column = 0 := beq_iff_eq.1 hcolumn
    omega
  · dsimp only
    omega

/-- At the end of the stream every possible key is on a line above. -/
theorem Sound.streamEnd (hl : l.Sound) :
    Reaches l.streamEnd fun l' => l'.Ended ∧ l'.Keys fun m => m.line < l'.mark.line := by
  rw [Lexer.streamEnd]
  generalize hmark : (if l.mark.column == 0 then l.mark else ⟨l.mark.index, l.mark.line + 1, 0⟩ :
    Mark) = stop
  have hstop : Holds ⟨[], stop⟩ (·.line < stop.line) { l with cursor := ⟨[], stop⟩ } :=
    ⟨rfl, hl.unended, hl.inner, fun k hk => hmark ▸ line_lt_of_before (hl.keys k hk)⟩
  refine reaches_bind hstop.atMargin fun l' hl' => reaches_ok ?_
  refine ⟨⟨rfl, l'.held, stop, rfl, hl'.inner⟩, fun k hk => ?_⟩
  have hline : k.mark.line < stop.line := hl'.keys k hk
  have hcursor : l'.mark = stop := congrArg Cursor.mark hl'.cursor
  exact hcursor ▸ hline

/-- A step at the end of the text is the last one, and any other goes on. -/
theorem Sound.nextToken (hl : l.Sound) :
    Reaches l.nextToken fun l' =>
      (l'.Ended ∧ l'.Keys fun m => m.line < l'.mark.line) ∨ Behind l.cursor l' := by
  obtain ⟨hskip, hupTo⟩ := hl.skipBetween (l.cursor.rest.length + 1)
  refine reaches_bind hskip.refreshKeys fun l' ⟨hl', hcursor⟩ => ?_
  have hclosed := hl'.closeBlocks (some l'.mark.column)
  dsimp only
  split
  · exact fun l hl => .inl (hclosed.sound.streamEnd l hl)
  · rename_i x hx
    intro l'' hl''
    obtain ⟨hbefore, hsound⟩ := hclosed.sound.tokenAt hx l'' hl''
    rw [hclosed.cursor, hcursor] at hbefore
    exact .inr ⟨hupTo.trans_before hbefore, hsound⟩

/-- Keys on a line above are stale, so none holds back the last tokens. -/
theorem Ended.refreshKeys (hl : l.Ended) (hkeys : l.Keys fun m => m.line < l.mark.line) :
    Reaches l.refreshKeys fun l' => l'.Ended ∧ l'.firstHeld? = none := by
  intro l' hl'
  obtain ⟨⟨-, hheld, hended⟩, hfresh⟩ := reaches_refreshKeys l l' hl'
  have hnone : ∀ o ∈ l'.key :: l'.outerKeys, o = none := by
    rintro (_ | k) hk
    · rfl
    · obtain ⟨hmem, hnot⟩ := hfresh k hk
      rw [isStale, decide_eq_true (hkeys k hmem), Bool.true_or] at hnot
      exact absurd hnot.symm Bool.false_ne_true
  have hempty : (l'.key :: l'.outerKeys).filterMap (fun k => k.map (·.number)) = [] :=
    List.filterMap_eq_nil_iff.2 fun o ho => by rw [hnone o ho]; rfl
  refine ⟨⟨hended.trans hl.ended, hheld ▸ hl.held⟩, ?_⟩
  rw [firstHeld?, hempty]
  rfl

theorem Sound.step (hl : l.Sound) : Reaches (l.nextToken >>= Lexer.refreshKeys) fun l' =>
    (l'.Ended ∧ l'.firstHeld? = none) ∨ Behind l.cursor l' := by
  refine reaches_bind hl.nextToken fun l' hl' l'' hl'' => ?_
  rcases hl' with ⟨hended, hkeys⟩ | ⟨hbefore, hsound⟩
  · exact .inl (hended.refreshKeys hkeys l'' hl'')
  · obtain ⟨hsound', hcursor⟩ := hsound.refreshKeys l'' hl''
    exact .inr ⟨hcursor ▸ hbefore, hsound'⟩

/-- **The tokens from a state on are those of the whole text**, if the scan may
take more steps than there are characters left: each of them takes one. -/
theorem Sound.whole_tokens {fuel : Nat} (hl : l.Sound) (hfuel : l.cursor.rest.length < fuel) :
    Tokens.Whole (l.tokens fuel) := by
  induction fuel generalizing l with
  | zero => exact absurd hfuel (Nat.not_lt_zero _)
  | succ fuel ih =>
    rw [tokens]
    cases hstep : l.nextToken >>= Lexer.refreshKeys with
    | error f => exact .refused [] f (List.forall_mem_nil _)
    | ok l' =>
      dsimp only [settle]
      rcases hl.step l' hstep with ⟨⟨hended, before, mark, hheld, hinner⟩, hfirst⟩ |
        ⟨hbefore, hsound⟩
      · -- No key is left that could still wait for its colon: all tokens are let go.
        rw [if_pos hended, hfirst]
        dsimp only
        rw [List.take_length, hheld]
        exact .ended before mark hinner
      · rw [if_neg (Bool.eq_false_iff.1 hsound.unended)]
        refine Tokens.Whole.append (fun t ht => hsound.inner t (List.mem_of_mem_take ht)) ?_
        refine ih ⟨rfl, hsound.unended, fun t ht => ?_, hsound.keys⟩ ?_
        · exact hsound.inner t (List.mem_of_mem_drop ht)
        · exact Nat.lt_of_lt_of_le hbefore.shorter (Nat.le_of_lt_succ hfuel)

end Lexer

/-- **The tokens of a text are those of the whole of it.** The last one ends the
stream and no other does, or none does and there is a fault. -/
theorem Tokens.whole_ofText (text : List Char) : Whole (ofText text) := by
  unfold ofText
  split
  · exact .refused [] _ (List.forall_mem_nil _)
  · extract_lets body l
    have hl : l.Sound := ⟨rfl, rfl, List.forall_mem_nil _, fun k hk => by simp [l] at hk⟩
    have htokens : Whole (l.tokens (body.length + 2)) :=
      hl.whole_tokens (by simp [l, Cursor.ofText])
    have hstart : ∀ t ∈ [(⟨.streamStart, .start, .start⟩ : Token)], t.Inner :=
      List.forall_mem_singleton.2 TokenKind.noConfusion
    exact Whole.append hstart htokens

/-- **Where a fault ends the tokens of a text, none of them ends the stream.** -/
theorem Tokens.inner_of_fault {text : List Char} (h : (ofText text).2 ≠ none) :
    ∀ t ∈ (ofText text).1, t.Inner := by
  have hwhole := whole_ofText text
  cases htext : ofText text with
  | mk tokens fault =>
    rw [htext] at h hwhole
    cases hwhole with
    | ended => exact absurd rfl h
    | refused _ _ hinner => exact hinner

end Yaml

end DeployLint
