import Mathlib.Data.List.Basic
import DeployLint.Proofs.Steps
import DeployLint.Yaml.Token.Scalars

/-!
# YAML — how far scanners go

A scanner takes characters from the front of what is left of a text, and
never goes back (`UpTo`). One that scans a token takes a character at least
(`Before`), whichever way it goes, and never gives the token that ends a
stream (`Inner`).
-/

namespace DeployLint

namespace Yaml

/-- A token that does not end the stream. -/
def Token.Inner (t : Token) : Prop := t.kind ≠ .streamEnd

/-- A mark in front of another, on its line or above. -/
def Mark.Before (m m' : Mark) : Prop :=
  m.line < m'.line ∨ m.line = m'.line ∧ m.column < m'.column

theorem Mark.Before.trans {m m' m'' : Mark} (h : m.Before m') (h' : m'.Before m'') :
    m.Before m'' := by
  unfold Before at *
  omega

/-- A mark that is not behind another. -/
def Mark.UpTo (m m' : Mark) : Prop := m = m' ∨ m.Before m'

theorem Mark.UpTo.trans_before {m m' m'' : Mark} (h : m.UpTo m') (h' : m'.Before m'') :
    m.Before m'' := by
  rcases h with rfl | h
  · exact h'
  · exact h.trans h'

/-! ## Moving a cursor -/

namespace Cursor

variable {c c' c'' : Cursor} {x : Char}

/-- A cursor in front of another: there more is left of the text, and the mark is in front. -/
structure Before (c c' : Cursor) : Prop where
  shorter : c'.rest.length < c.rest.length
  mark : c.mark.Before c'.mark

theorem Before.trans (h : c.Before c') (h' : c'.Before c'') : c.Before c'' :=
  ⟨Nat.lt_trans h'.shorter h.shorter, h.mark.trans h'.mark⟩

/-- A cursor that is not behind another. -/
def UpTo (c c' : Cursor) : Prop := c = c' ∨ c.Before c'

/-- One that is in front of the other if a character is left. -/
structure Past (c c' : Cursor) : Prop where
  upTo : c.UpTo c'
  before : c.rest ≠ [] → c.Before c'

theorem UpTo.refl (c : Cursor) : c.UpTo c := .inl rfl

theorem UpTo.trans (h : c.UpTo c') (h' : c'.UpTo c'') : c.UpTo c'' := by
  rcases h with rfl | h
  · exact h'
  · rcases h' with rfl | h'
    · exact .inr h
    · exact .inr (h.trans h')

theorem Before.trans_upTo (h : c.Before c') (h' : c'.UpTo c'') : c.Before c'' := by
  rcases h' with rfl | h'
  · exact h
  · exact h.trans h'

theorem UpTo.trans_before (h : c.UpTo c') (h' : c'.Before c'') : c.Before c'' := by
  rcases h with rfl | h
  · exact h'
  · exact h.trans h'

theorem Past.trans_upTo (h : c.Past c') (h' : c'.UpTo c'') : c.Past c'' :=
  ⟨h.upTo.trans h', fun hrest => (h.before hrest).trans_upTo h'⟩

theorem rest_ne_nil_of_ahead? (h : c.ahead? 0 = some x) : c.rest ≠ [] := by
  intro hrest
  rw [ahead?, hrest] at h
  exact nomatch h

theorem before_next (h : c.rest ≠ []) : c.Before c.next := by
  obtain ⟨rest, mark⟩ := c
  cases rest with
  | nil => exact absurd rfl h
  | cons x rest => exact ⟨Nat.lt_succ_self _, .inr ⟨rfl, Nat.lt_succ_self _⟩⟩

theorem upTo_next (c : Cursor) : c.UpTo c.next := by
  by_cases h : c.rest = []
  · left
    rw [next, h]
  · exact .inr (before_next h)

theorem upTo_skip (c : Cursor) (n : Nat) : c.UpTo (c.skip n) := by
  induction n generalizing c with
  | zero => exact .refl c
  | succ n ih => exact c.upTo_next.trans (ih c.next)

theorem past_skip (c : Cursor) (n : Nat) : c.Past (c.skip (n + 1)) :=
  ⟨c.upTo_skip _, fun h => (before_next h).trans_upTo (c.next.upTo_skip n)⟩

theorem upTo_skipClass (p : Char → Bool) (c : Cursor) : c.UpTo (c.skipClass p) :=
  c.upTo_skip _

theorem upTo_skipComment (c : Cursor) : c.UpTo c.skipComment := by
  rw [skipComment]
  split
  · exact upTo_skipClass _ c
  · exact .refl c

/-- A line break at the cursor is taken. -/
theorem before_takeBreak (h : c.onClass isBreak = true) : c.Before c.takeBreak.2 := by
  obtain ⟨rest, mark⟩ := c
  rw [takeBreak]
  dsimp only
  split
  · exact ⟨Nat.lt_of_lt_of_le (Nat.lt_succ_self _) (Nat.le_succ _), .inl (Nat.lt_succ_self _)⟩
  · rename_i x rest _
    have hbreak : isBreak x = true := h
    rw [if_pos hbreak]
    split
    · exact ⟨Nat.lt_succ_self _, .inl (Nat.lt_succ_self _)⟩
    · exact ⟨Nat.lt_succ_self _, .inl (Nat.lt_succ_self _)⟩
  · exact nomatch h

theorem upTo_takeBreak (c : Cursor) : c.UpTo c.takeBreak.2 := by
  by_cases h : c.onClass isBreak = true
  · exact .inr (before_takeBreak h)
  · obtain ⟨rest, mark⟩ := c
    left
    rw [takeBreak]
    dsimp only
    split
    · exact absurd rfl h
    · rename_i x rest _
      have hbreak : ¬ isBreak x = true := h
      have hseparator : ¬ (x = '\u2028' || x = '\u2029') = true := by
        intro hx
        exact hbreak (by rw [isBreak, Bool.or_assoc, hx, Bool.or_true])
      rw [if_neg hseparator, if_neg hbreak]
    · rfl

end Cursor

/-! ## Chains of scanners -/

namespace Scan

variable {α β : Type} {P : α → Prop} {Q : β → Prop} {R R' R'' : Cursor → Cursor → Prop}
variable {x : Scan α} {f : α → Scan β} {c : Cursor}

/-- Where a scanner that succeeds goes from a cursor, and what it gives. -/
def MovesFrom (c : Cursor) (R : Cursor → Cursor → Prop) (x : Scan α) (P : α → Prop) : Prop :=
  ∀ a c', x c = .ok (a, c') → R c c' ∧ P a

/-- The same from every cursor. -/
def Moves (R : Cursor → Cursor → Prop) (x : Scan α) (P : α → Prop) : Prop :=
  ∀ c, MovesFrom c R x P

/-- A scanner that never goes back. -/
abbrev Onward (x : Scan α) (P : α → Prop) : Prop := Moves Cursor.UpTo x P

/-- A scanner that takes a character at least, if there is one. -/
abbrev Forward (x : Scan α) (P : α → Prop) : Prop := Moves Cursor.Past x P

/-- A scanner of which nothing is known but that it never goes back. -/
abbrev Roams (x : Scan α) : Prop := Onward x fun _ => True

theorem MovesFrom.bind (hR : ∀ {c' c''}, R c c' → R' c' c'' → R'' c c'')
    (hx : MovesFrom c R x P) (hf : ∀ a, P a → Moves R' (f a) Q) :
    MovesFrom c R'' (x >>= f) Q := by
  intro b c'' h
  obtain ⟨⟨a, c'⟩, ha, hb⟩ := bind_eq_ok_iff.1 h
  obtain ⟨hto, hP⟩ := hx a c' ha
  obtain ⟨hto', hQ⟩ := hf a hP c' b c'' hb
  exact ⟨hR hto hto', hQ⟩

/-- Where both parts of a chain never go back, the chain does not. -/
theorem Onward.bind (hx : Onward x P) (hf : ∀ a, P a → Onward (f a) Q) : Onward (x >>= f) Q :=
  fun c => (hx c).bind Cursor.UpTo.trans hf

/-- A chain goes as far as its first scanner. -/
theorem Forward.bind (hx : Forward x P) (hf : ∀ a, P a → Onward (f a) Q) : Forward (x >>= f) Q :=
  fun c => (hx c).bind Cursor.Past.trans_upTo hf

/-- The same, where nothing is asked of what the first part gives. -/
theorem Roams.bind (hx : Roams x) (hf : ∀ a, Onward (f a) Q) : Onward (x >>= f) Q :=
  Onward.bind hx fun a _ => hf a

theorem onward_pure {a : α} (h : P a) : Onward (pure a) P := by
  intro c b c' hb
  cases hb
  exact ⟨.refl c, h⟩

theorem roams_pure (a : α) : Roams (pure a) := onward_pure trivial

theorem Forward.movesFrom (hx : Forward x P) (hc : c.rest ≠ []) :
    MovesFrom c Cursor.Before x P := by
  intro a c' h
  obtain ⟨hto, hP⟩ := hx c a c' h
  exact ⟨hto.before hc, hP⟩

/-- Taking characters is no way back. -/
theorem Forward.onward (hx : Forward x P) : Onward x P := by
  intro c a c' h
  obtain ⟨hto, hP⟩ := hx c a c' h
  exact ⟨hto.upTo, hP⟩

/-- A fault goes nowhere and gives nothing. -/
theorem moves_fail (problem : Problem) (activity : Activity) (since : Mark) :
    Moves R (fail problem activity since : Scan α) P := by
  intro c a c' h
  exact nomatch h

/-- Nor does a fault at a cursor further back. -/
theorem moves_set_fail (before : Cursor) (problem : Problem) (activity : Activity) (since : Mark) :
    Moves R (do set before; fail problem activity since : Scan α) P := by
  intro c a c' h
  exact nomatch h

/-- A look at the cursor does not move it. -/
theorem movesFrom_look {f : Cursor → Scan β} (h : MovesFrom c R (f c) Q) :
    MovesFrom c R (get >>= f) Q := h

theorem moves_look {f : Cursor → Scan β} (h : ∀ c, Moves R (f c) Q) : Moves R (get >>= f) Q :=
  fun c => movesFrom_look (h c c)

theorem movesFrom_set {c' : Cursor} (h : R c c') : MovesFrom c R (set c') fun _ => True := by
  intro a c'' ha
  cases ha
  exact ⟨h, trivial⟩

theorem moves_ite {p : Prop} [Decidable p] {x y : Scan α} (hx : Moves R x P) (hy : Moves R y P) :
    Moves R (if p then x else y) P := by
  split
  · exact hx
  · exact hy

theorem roams_modify {g : Cursor → Cursor} (h : ∀ c : Cursor, c.UpTo (g c)) :
    Roams (modify g) := by
  intro c a c' ha
  cases ha
  exact ⟨h c, trivial⟩

theorem roams_skip (n : Nat) : Roams (skip n) := roams_modify fun c => c.upTo_skip n

theorem forward_skip (n : Nat) : Forward (skip (n + 1)) fun _ => True := by
  intro c a c' h
  cases h
  exact ⟨c.past_skip n, trivial⟩

theorem roams_takeClass (p : Char → Bool) : Roams (takeClass p) := by
  intro c a c' h
  cases h
  exact ⟨c.upTo_skip _, trivial⟩

theorem roams_takeBreak : Roams takeBreak := by
  intro c a c' h
  cases h
  exact ⟨c.upTo_takeBreak, trivial⟩

theorem roams_restOfLine (activity : Activity) (since : Mark) :
    Roams (restOfLine activity since) := by
  have hblanks := roams_modify fun c => (c.upTo_skipClass isBlank).trans (Cursor.upTo_skipComment _)
  refine hblanks.bind fun _ => moves_look fun c => moves_ite ?_ (moves_fail _ _ _)
  exact roams_takeBreak.bind fun _ => roams_pure _

/-! ## Anchors and tags -/

variable {kind : TokenKind}

theorem onward_token (h : kind ≠ .streamEnd) (start : Mark) :
    Onward (token kind start) Token.Inner :=
  moves_look fun _ => onward_pure h

theorem forward_anchor (isAlias : Bool) : Forward (anchor isAlias) Token.Inner := by
  refine moves_look fun c => (forward_skip 0).bind fun _ _ => ?_
  refine (roams_takeClass _).bind fun name => moves_look fun c => ?_
  refine moves_ite (moves_fail _ _ _) (onward_token ?_ _)
  split
  · exact TokenKind.noConfusion
  · exact TokenKind.noConfusion

theorem roams_octet (activity : Activity) (since : Mark) : Roams (octet activity since) := by
  refine moves_look fun c => ?_
  split
  · split
    · exact (roams_skip 3).bind fun _ => roams_pure _
    · exact moves_fail _ _ _
  · exact moves_fail _ _ _

theorem roams_laterOctets (activity : Activity) (since : Mark) (count n : Nat) :
    Roams (laterOctets activity since count n) := by
  induction count generalizing n with
  | zero => exact roams_pure _
  | succ count ih =>
    refine moves_look fun before => (roams_octet activity since).bind fun o => ?_
    exact moves_ite (ih _) (moves_set_fail _ _ _ _)

theorem roams_escapedChar (activity : Activity) (since : Mark) :
    Roams (escapedChar activity since) := by
  refine moves_look fun before => (roams_octet activity since).bind fun first => ?_
  split
  · exact moves_set_fail _ _ _ _
  · exact roams_pure _
  · exact (roams_laterOctets _ _ _ _).bind fun n => roams_pure _

theorem roams_uriChars (verbatim : Bool) (activity : Activity) (since : Mark) (fuel : Nat) :
    Roams (uriChars verbatim activity since fuel) := by
  induction fuel with
  | zero => exact roams_pure _
  | succ fuel ih =>
    have hlater (x : Char) : Roams (do pure (x :: (← uriChars verbatim activity since fuel))) :=
      ih.bind fun xs => roams_pure _
    refine moves_look fun c => ?_
    split
    · exact roams_pure _
    · refine moves_ite (roams_pure _) ?_
      refine moves_ite ((roams_escapedChar activity since).bind hlater) ?_
      exact (roams_skip 1).bind fun _ => hlater _

theorem roams_tagUri (verbatim inDirective : Bool) (lead : List Char) (since : Mark) :
    Roams (tagUri verbatim inDirective lead since) := by
  refine moves_look fun c => (roams_uriChars _ _ _ _).bind fun chars => ?_
  exact moves_ite (moves_fail _ _ _) (roams_pure _)

theorem forward_tagHandle (inDirective : Bool) (since : Mark) :
    Forward (tagHandle inDirective since) fun _ => True := by
  refine moves_look fun c => moves_ite ?_ (moves_fail _ _ _)
  refine (forward_skip 0).bind fun _ _ => (roams_takeClass _).bind fun name => ?_
  refine moves_look fun c => moves_ite ((roams_skip 1).bind fun _ => roams_pure _) ?_
  exact moves_ite (moves_fail _ _ _) (roams_pure _)

theorem forward_tag (inFlow : Bool) : Forward (tag inFlow) Token.Inner := by
  refine moves_look fun start => moves_look fun c => ?_
  extract_lets join
  have hjoin (parts : List Char × List Char) : Onward (join parts) Token.Inner :=
    moves_look fun c => moves_ite (onward_token TokenKind.noConfusion _) (moves_fail _ _ _)
  refine moves_ite ?verbatim ?short
  case verbatim =>
    refine (forward_skip 1).bind fun _ _ => (roams_tagUri _ _ _ _).bind fun uri => ?_
    refine moves_look fun c => moves_ite ?_ (moves_fail _ _ _)
    exact (roams_skip 1).bind fun _ => (roams_pure _).bind hjoin
  case short =>
    refine (forward_tagHandle _ _).bind fun handle _ => moves_ite ?_ ?_
    · exact (roams_tagUri _ _ _ _).bind fun ending => (roams_pure _).bind hjoin
    · exact (roams_tagUri _ _ _ _).bind fun ending => (roams_pure _).bind hjoin

/-! ## Directives -/

theorem roams_versionNumber (since : Mark) (fuel count n : Nat) :
    Roams (versionNumber since fuel count n) := by
  induction fuel generalizing count n with
  | zero => exact roams_pure _
  | succ fuel ih =>
    refine moves_look fun c => ?_
    split
    · refine moves_ite (moves_ite (moves_fail _ _ _) ?_) ?_
      · exact (roams_skip 1).bind fun _ => ih _ _
      · exact moves_ite (moves_fail _ _ _) (roams_pure _)
    · exact moves_ite (moves_fail _ _ _) (roams_pure _)

theorem roams_blanks : Roams (modify (·.skipClass isBlank)) :=
  roams_modify (Cursor.upTo_skipClass isBlank)

theorem onward_version (since : Mark) : Onward (version since) fun kind => kind ≠ .streamEnd := by
  refine roams_blanks.bind fun _ => (roams_versionNumber _ _ _ _).bind fun major => ?_
  refine moves_look fun c => moves_ite ?_ (moves_fail _ _ _)
  refine (roams_skip 1).bind fun _ => (roams_versionNumber _ _ _ _).bind fun minor => ?_
  exact onward_pure TokenKind.noConfusion

theorem onward_tagDeclaration (since : Mark) :
    Onward (tagDeclaration since) fun kind => kind ≠ .streamEnd := by
  refine roams_blanks.bind fun _ => (forward_tagHandle true since).onward.bind fun handle _ => ?_
  refine moves_look fun c => moves_ite ?_ (moves_fail _ _ _)
  refine roams_blanks.bind fun _ => (roams_tagUri _ _ _ _).bind fun lead => ?_
  exact moves_look fun c => moves_ite (onward_pure TokenKind.noConfusion) (moves_fail _ _ _)

theorem forward_directive : Forward directive Token.Inner := by
  refine moves_look fun start => (forward_skip 0).bind fun _ _ => ?_
  refine (roams_takeClass _).bind fun name => moves_ite (moves_fail _ _ _) ?_
  refine moves_look fun c => moves_ite ?_ (moves_fail _ _ _)
  have hfinish (kind : TokenKind) (hkind : kind ≠ .streamEnd) : Onward (do
      let t ← token kind start.mark
      restOfLine .directive start.mark
      pure t) Token.Inner :=
    (onward_token hkind _).bind fun t ht => (roams_restOfLine _ _).bind fun _ => onward_pure ht
  refine moves_ite ((onward_version _).bind hfinish) ?_
  exact moves_ite ((onward_tagDeclaration _).bind hfinish) (moves_fail _ _ _)

/-! ## Quoted scalars -/

theorem roams_escape (since : Mark) : Roams (escape since) := by
  refine moves_look fun c => ?_
  split
  · split
    · exact (roams_skip 2).bind fun _ => roams_pure _
    · refine (roams_skip 2).bind fun _ => moves_look fun c => ?_
      dsimp only
      split
      · refine moves_ite (moves_fail _ _ _) (moves_ite (moves_fail _ _ _) ?_)
        exact (roams_skip _).bind fun _ => roams_pure _
      · exact moves_fail _ _ _
    · exact moves_fail _ _ _
  · exact moves_fail _ _ _

theorem roams_quotedRun (single : Bool) (since : Mark) (fuel : Nat) :
    Roams (quotedRun single since fuel) := by
  induction fuel with
  | zero => exact roams_pure _
  | succ fuel ih =>
    refine moves_look fun c => ?_
    split
    · exact roams_pure _
    · refine moves_ite (roams_pure _) ?_
      refine moves_ite ((roams_skip 2).bind fun _ => ih.bind fun _ => roams_pure _) ?_
      refine moves_ite (roams_pure _) ?_
      refine moves_ite ((roams_skip 1).bind fun _ => roams_takeBreak.bind fun _ => roams_pure _) ?_
      refine moves_ite ((roams_escape since).bind fun _ => ih.bind fun _ => roams_pure _) ?_
      refine (roams_skip 1).bind fun _ => (roams_pure _).bind fun _ => ?_
      exact ih.bind fun _ => roams_pure _

theorem roams_quotedGap (gap : Gap) (fuel : Nat) : Roams (quotedGap gap fuel) := by
  induction fuel generalizing gap with
  | zero => exact roams_pure _
  | succ fuel ih =>
    refine moves_look fun c => ?_
    split
    · exact roams_pure _
    · refine moves_ite ((roams_skip 1).bind fun _ => ih _) ?_
      exact moves_ite (roams_takeBreak.bind fun _ => ih _) (roams_pure _)

theorem roams_quotedBody (single : Bool) (since : Mark) (fuel : Nat) :
    Roams (quotedBody single since fuel) := by
  induction fuel with
  | zero => exact moves_fail _ _ _
  | succ fuel ih =>
    refine moves_look fun c => moves_ite (moves_fail _ _ _) (moves_ite (moves_fail _ _ _) ?_)
    refine (roams_quotedRun _ _ _).bind fun run => moves_look fun c => ?_
    refine moves_ite (roams_pure _) ((roams_quotedGap _ _).bind fun gap => ?_)
    exact ih.bind fun text => roams_pure _

theorem forward_quoted (single : Bool) : Forward (quoted single) Token.Inner := by
  refine moves_look fun start => (forward_skip 0).bind fun _ _ => moves_look fun c => ?_
  refine (roams_quotedBody _ _ _).bind fun text => (roams_skip 1).bind fun _ => ?_
  exact onward_token TokenKind.noConfusion _

/-! ## Plain scalars -/

theorem roams_plainRun (inFlow : Bool) (since : Mark) (fuel : Nat) :
    Roams (plainRun inFlow since fuel) := by
  induction fuel with
  | zero => exact roams_pure _
  | succ fuel ih =>
    refine moves_look fun c => ?_
    split
    · exact roams_pure _
    · refine moves_ite (roams_pure _) (moves_ite (moves_fail _ _ _) ?_)
      refine moves_ite (roams_pure _) ?_
      exact (roams_skip 1).bind fun _ => ih.bind fun _ => roams_pure _

theorem roams_plainGap (column : Nat) (since : Mark) (gap : Gap) (fuel : Nat) :
    Roams (plainGap column since gap fuel) := by
  induction fuel generalizing gap with
  | zero => exact roams_pure _
  | succ fuel ih =>
    refine moves_look fun c => ?_
    split
    · exact roams_pure _
    · refine moves_ite (moves_ite (moves_fail _ _ _) ((roams_skip 1).bind fun _ => ih _)) ?_
      exact moves_ite (roams_takeBreak.bind fun _ => ih _) (roams_pure _)

theorem roams_plainBody (inFlow : Bool) (column : Nat) (since : Mark) (sofar : PlainText)
    (fuel : Nat) : Roams (plainBody inFlow column since sofar fuel) := by
  induction fuel generalizing sofar with
  | zero => exact roams_pure _
  | succ fuel ih =>
    refine moves_look fun c => moves_ite (roams_pure _) ?_
    refine (roams_plainRun _ _ _).bind fun run => moves_look fun behind => ?_
    refine moves_ite (roams_pure _) ((roams_plainGap _ _ _ _).bind fun gap => ?_)
    exact moves_look fun c => moves_ite (roams_pure _) (ih _)

/-- A character at a cursor that a plain scalar can begin with. -/
structure BeginsPlain (c : Cursor) (y : Char) : Prop where
  ahead : c.ahead? 0 = some y
  line : c.onDocumentIndicator = false
  comment : y ≠ '#'
  space : (isBlank y || isBreak y) = false
  colon : (y = ':' && c.spaceOrEndAt 1) = false
  flow : isFlowMark y = false

/-- A plain scalar has the character that it begins with. -/
theorem before_plain {y : Char} {inFlow : Bool} {column : Nat} (h : BeginsPlain c y) :
    MovesFrom c Cursor.Before (plain inFlow column) fun a => a.1.Inner := by
  have hrun (since : Mark) (fuel : Nat) :
      MovesFrom c Cursor.Before (plainRun inFlow since (fuel + 1)) fun _ => True := by
    refine movesFrom_look ?_
    rw [h.ahead]
    dsimp only
    rw [h.space, h.colon, h.flow, Bool.and_false, Bool.or_false, if_neg Bool.false_ne_true,
      if_neg Bool.false_ne_true]
    have hskip := (forward_skip 0).movesFrom (Cursor.rest_ne_nil_of_ahead? h.ahead)
    have htake := hskip.bind Cursor.Before.trans_upTo fun _ _ =>
      (roams_plainRun inFlow since fuel).bind fun xs => roams_pure (y :: xs)
    split
    · exact moves_fail _ _ _ c
    · exact htake
  have hbody (since : Mark) (sofar : PlainText) (fuel : Nat) :
      MovesFrom c Cursor.Before (plainBody inFlow column since sofar (fuel + 1)) fun _ => True := by
    have hhash : c.isAt 0 '#' = false := by
      rw [Cursor.isAt, h.ahead]
      exact beq_false_of_ne fun hy => h.comment (Option.some.inj hy)
    refine movesFrom_look ?_
    rw [h.line, hhash, Bool.or_false, if_neg Bool.false_ne_true]
    refine (hrun since _).bind Cursor.Before.trans_upTo fun run _ => moves_look fun behind => ?_
    refine moves_ite (roams_pure _) ((roams_plainGap _ _ _ _).bind fun gap => ?_)
    exact moves_look fun c => moves_ite (roams_pure _) (roams_plainBody _ _ _ _ _)
  refine movesFrom_look ((hbody _ _ _).bind Cursor.Before.trans_upTo fun t _ => ?_)
  exact onward_pure TokenKind.noConfusion

/-! ## Block scalars -/

theorem roams_chomping? : Roams chomping? := by
  refine moves_look fun c => ?_
  split
  · exact (roams_skip 1).bind fun _ => roams_pure _
  · exact (roams_skip 1).bind fun _ => roams_pure _
  · exact roams_pure _

theorem roams_indentation? (since : Mark) : Roams (indentation? since) := by
  refine moves_look fun c => ?_
  split
  · refine moves_ite (moves_fail _ _ _) ?_
    exact moves_ite ((roams_skip 1).bind fun _ => roams_pure _) (roams_pure _)
  · exact roams_pure _

theorem roams_blockIndicators (since : Mark) : Roams (blockIndicators since) := by
  refine roams_chomping?.bind fun chomping => ?_
  split
  · exact (roams_indentation? since).bind fun _ => roams_pure _
  · refine (roams_indentation? since).bind fun n => ?_
    split
    · exact roams_chomping?.bind fun _ => roams_pure _
    · exact roams_pure _

theorem roams_blockBreaks (column : Option Nat) (since : Mark) (breaks : List Char)
    (widest : Nat) (stop : Mark) (fuel : Nat) :
    Roams (blockBreaks column since breaks widest stop fuel) := by
  induction fuel generalizing breaks widest stop with
  | zero => exact roams_pure _
  | succ fuel ih =>
    intro c
    refine movesFrom_look ((movesFrom_set (c.upTo_skip _)).bind Cursor.UpTo.trans fun _ _ => ?_)
    refine moves_ite (moves_fail _ _ _) (moves_ite (roams_pure _) ?_)
    exact roams_takeBreak.bind fun line => moves_look fun c => ih _ _ _

theorem roams_blockLines (fold : Bool) (column : Nat) (since : Mark) (sofar : BlockText)
    (fuel : Nat) : Roams (blockLines fold column since sofar fuel) := by
  induction fuel generalizing sofar with
  | zero => exact roams_pure _
  | succ fuel ih =>
    refine moves_look fun c => moves_ite (roams_pure _) ?_
    refine (roams_takeClass _).bind fun line => roams_takeBreak.bind fun first => ?_
    exact moves_look fun behind => (roams_blockBreaks _ _ _ _ _ _).bind fun x => ih _

theorem forward_block (fold : Bool) (indentation : Option Nat) :
    Forward (block fold indentation) Token.Inner := by
  refine moves_look fun start => (forward_skip 0).bind fun _ _ => ?_
  refine (roams_blockIndicators _).bind fun header => (roams_restOfLine _ _).bind fun _ => ?_
  refine moves_look fun c => (roams_blockBreaks _ _ _ _ _ _).bind fun x => ?_
  refine moves_look fun c => (roams_blockLines _ _ _ _ _).bind fun t => ?_
  exact onward_pure TokenKind.noConfusion

end Scan

end Yaml

end DeployLint
