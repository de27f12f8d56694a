import Mathlib.Data.List.Basic
import DeployLint.Yaml.Event

/-!
# YAML — the end of a stream is noted last

A part of the grammar drops tokens, declares handles and notes events, and
does nothing else. What these three steps keep is kept by every part
(`Stable`, `keeps_node`), whether the part succeeds or fails. Hence no part of
a document notes the end of the stream and none brings tokens back, and the
reading of all documents ends at a token that ends the stream.
-/

namespace DeployLint

namespace Yaml

namespace Grammar

variable {α β : Type} {x : Grammar α} {f : α → Grammar β} {P I L : Reading → Prop}
variable {Q : α → Reading → Prop} {R : β → Reading → Prop}

/-! ## Where parts of the grammar lead -/

/-- A part that begins where `P` holds ends where `Q` holds of what it gives,
or fails where `L` holds. -/
def Leads (x : Grammar α) (P : Reading → Prop) (Q : α → Reading → Prop) (L : Reading → Prop) :
    Prop :=
  ∀ r, P r → (∀ a r', x r = .ok a r' → Q a r') ∧ ∀ fault r', x r = .error fault r' → L r'

theorem leads_pure (a : α) (h : ∀ r, P r → Q a r) : Leads (pure a) P Q L := by
  intro r hr
  refine ⟨fun b r' hb => ?_, fun fault r' hfault => (nomatch hfault)⟩
  cases hb
  exact h r hr

theorem leads_throw (fault : Fault) (h : ∀ r, P r → L r) : Leads (throw fault) P Q L := by
  intro r hr
  refine ⟨fun b r' hb => (nomatch hb), fun _ r' hfault => ?_⟩
  cases hfault
  exact h r hr

theorem leads_get : Leads get P (fun a r => P r ∧ a = r) L := by
  intro r hr
  refine ⟨fun b r' hb => ?_, fun fault r' hfault => (nomatch hfault)⟩
  cases hb
  exact ⟨hr, rfl⟩

theorem leads_modify {g : Reading → Reading} {Q : Unit → Reading → Prop}
    (h : ∀ r, P r → Q () (g r)) : Leads (modify g) P Q L := by
  intro r hr
  refine ⟨fun b r' hb => ?_, fun fault r' hfault => (nomatch hfault)⟩
  cases hb
  exact h r hr

/-- A chain leads where its last part leads, from where the parts before it do. -/
theorem Leads.bind (hx : Leads x P Q L) (hf : ∀ a, Leads (f a) (Q a) R L) :
    Leads (x >>= f) P R L := by
  intro r hr
  obtain ⟨hok, hfail⟩ := hx r hr
  change (∀ b r', EStateM.bind x f r = .ok b r' → R b r') ∧
    ∀ fault r', EStateM.bind x f r = .error fault r' → L r'
  rw [EStateM.bind]
  cases hstep : x r with
  | ok a r' => exact hf a r' (hok a r' hstep)
  | error fault r' =>
    refine ⟨fun b s hb => (nomatch hb), fun _ s hs => ?_⟩
    cases hs
    exact hfail fault r' hstep

theorem Leads.mono {P' L' : Reading → Prop} {Q' : α → Reading → Prop} (hx : Leads x P Q L)
    (hP : ∀ r, P' r → P r) (hQ : ∀ a r, Q a r → Q' a r) (hL : ∀ r, L r → L' r) :
    Leads x P' Q' L' := by
  intro r hr
  obtain ⟨hok, hfail⟩ := hx r (hP r hr)
  exact ⟨fun a r' ha => hQ a r' (hok a r' ha), fun fault r' h => hL r' (hfail fault r' h)⟩

/-- What holds whatever the reading is known of the part. -/
theorem leads_given {c : Prop} (h : c → Leads x P Q L) : Leads x (fun r => c ∧ P r) Q L :=
  fun r hr => h hr.1 r hr.2

/-- Nothing behind a fault is reached. -/
theorem leads_throw_bind (fault : Fault) (h : ∀ r, P r → L r) : Leads (throw fault >>= f) P R L :=
  (leads_throw fault h).bind (Q := fun _ _ => False) fun _ _ h => h.elim

/-- The next token is the first of those to come, or the one beyond the last. -/
def Next (r : Reading) (t : Token) : Prop :=
  r.tokens.head? = some t ∨ r.tokens = [] ∧ r.fault = none ∧ t = beyond

theorem leads_peek (h : ∀ r, P r → L r) : Leads peek P (fun t r => P r ∧ Next r t) L := by
  rw [peek]
  refine leads_get.bind fun a => ?_
  split
  · rename_i t tail htokens
    refine leads_pure t ?_
    rintro r ⟨hr, rfl⟩
    exact ⟨hr, .inl (congrArg List.head? htokens)⟩
  · exact leads_throw _ fun r hr => h r hr.1
  · rename_i htokens hfault
    refine leads_pure beyond ?_
    rintro r ⟨hr, rfl⟩
    exact ⟨hr, .inr ⟨htokens, hfault, rfl⟩⟩

/-! ## What every part keeps -/

/-- A part keeps a property where it ends and where it fails. -/
def Keeps (I : Reading → Prop) (x : Grammar α) : Prop := Leads x I (fun _ => I) I

/-- What the steps inside of documents keep: a token is dropped, handles are
declared, an event is noted that does not end the stream. -/
structure Stable (I : Reading → Prop) : Prop where
  drop : ∀ {r}, I r → I { r with tokens := r.tokens.tail }
  handles : ∀ {r} hs, I r → I { r with handles := hs }
  note : ∀ {r e} mark, e ≠ .streamEnd → I r → I { r with noted := ⟨e, mark⟩ :: r.noted }

theorem keeps_pure (a : α) : Keeps I (pure a) := leads_pure a fun _ hr => hr

theorem keeps_throw (fault : Fault) : Keeps I (throw fault : Grammar α) :=
  leads_throw fault fun _ hr => hr

theorem keeps_fail (problem : Problem) (place : Mark) (activity : Activity) (since : Mark) :
    Keeps I (fail problem place activity since : Grammar α) :=
  keeps_throw _

theorem keeps_get : Keeps I get := leads_get.mono (fun _ hr => hr) (fun _ _ h => h.1) fun _ hr => hr

theorem keeps_peek : Keeps I peek :=
  (leads_peek fun _ hr => hr).mono (fun _ hr => hr) (fun _ _ h => h.1) fun _ hr => hr

theorem Keeps.bind (hx : Keeps I x) (hf : ∀ a, Keeps I (f a)) : Keeps I (x >>= f) :=
  Leads.bind hx hf

/-- A chain whose later part does not ask for what the earlier one gives. -/
theorem Keeps.before {y : Grammar β} (hx : Keeps I x) (hy : Keeps I y) :
    Keeps I (x >>= fun _ => y) :=
  hx.bind fun _ => hy

theorem Keeps.map {g : α → β} (hx : Keeps I x) : Keeps I (g <$> x) := by
  rw [map_eq_pure_bind]
  exact hx.bind fun a => keeps_pure (g a)

/-- Handles are looked up, and an unknown one is a fault. -/
theorem keeps_resolveTag (handle ending : String) (since tagMark : Mark) :
    Keeps I (resolveTag handle ending since tagMark) := by
  rw [resolveTag]
  split
  · exact keeps_pure _
  · refine keeps_get.bind fun r => ?_
    split
    · exact keeps_pure _
    · exact keeps_fail _ _ _ _

section Stable

variable (hI : Stable I)

include hI

theorem keeps_drop : Keeps I drop := leads_modify fun _ hr => hI.drop hr

theorem keeps_handles (g : Reading → List (String × String)) :
    Keeps I (modify fun r => { r with handles := g r }) :=
  leads_modify fun _ hr => hI.handles _ hr

theorem keeps_note {e : Event} (mark : Mark) (h : e ≠ .streamEnd) : Keeps I (note e mark) :=
  leads_modify fun _ hr => hI.note mark h hr

theorem keeps_absent (mark : Mark) : Keeps I (absent mark) :=
  keeps_note hI mark (Event.noConfusion)

/-! ### Node properties -/

theorem keeps_takeAnchor? : Keeps I takeAnchor? := by
  rw [takeAnchor?]
  refine keeps_peek.bind fun t => ?_
  split
  · exact (keeps_drop hI).bind fun _ => keeps_pure _
  · exact keeps_pure _

theorem keeps_takeTag? : Keeps I takeTag? := by
  rw [takeTag?]
  refine keeps_peek.bind fun t => ?_
  split
  · exact (keeps_drop hI).bind fun _ => keeps_pure _
  · exact keeps_pure _

theorem keeps_properties : Keeps I properties := by
  rw [properties]
  refine keeps_peek.bind fun since => (keeps_takeAnchor? hI).bind fun early =>
    (keeps_takeTag? hI).bind fun raw => ?_
  extract_lets join
  have hjoin : ∀ anchor, Keeps I (join anchor) := by
    intro anchor
    refine keeps_peek.map.bind fun _ => ?_
    cases raw with
    | none => exact (keeps_pure _).bind fun _ => keeps_pure _
    | some t => exact (keeps_resolveTag _ _ _ _).map.bind fun _ => keeps_pure _
  split
  · exact (keeps_takeAnchor? hI).bind hjoin
  · exact (keeps_pure _).bind hjoin

/-! ### Nodes -/

/-- All parts that read nodes, with so much fuel, keep a property. -/
structure KeepsNodes (I : Reading → Prop) (fuel : Nat) : Prop where
  node : ∀ block unindented, Keeps I (node block unindented fuel)
  blockEntries : ∀ since, Keeps I (blockEntries since fuel)
  unindentedEntries : Keeps I (unindentedEntries fuel)
  blockPairs : ∀ since, Keeps I (blockPairs since fuel)
  blockValue : Keeps I (blockValue fuel)
  flowItems : ∀ since first, Keeps I (flowItems since first fuel)
  singlePair : Keeps I (singlePair fuel)
  flowPairs : ∀ since first, Keeps I (flowPairs since first fuel)
  flowValue : Keeps I (flowValue fuel)

variable {fuel : Nat} (h : KeepsNodes I fuel)

include h

theorem keeps_node_succ (block unindented : Bool) :
    Keeps I (node block unindented (fuel + 1)) := by
  rw [node]
  refine keeps_peek.bind fun t => ?_
  split
  · exact (keeps_note hI _ Event.noConfusion).before (keeps_drop hI)
  · extract_lets since
    refine (keeps_properties hI).bind fun p => keeps_peek.bind fun t => ?_
    split
    · exact (keeps_note hI _ Event.noConfusion).before h.unindentedEntries
    · split
      · exact (keeps_note hI _ Event.noConfusion).before (keeps_drop hI)
      · exact (keeps_note hI _ Event.noConfusion).before
          ((keeps_drop hI).before (h.flowItems _ _))
      · exact (keeps_note hI _ Event.noConfusion).before
          ((keeps_drop hI).before (h.flowPairs _ _))
      · split
        · exact (keeps_note hI _ Event.noConfusion).before
            ((keeps_drop hI).before (h.blockEntries _))
        · split
          · exact (keeps_note hI _ Event.noConfusion).before
              ((keeps_drop hI).before (h.blockPairs _))
          · split
            · exact keeps_note hI _ Event.noConfusion
            · exact keeps_fail _ _ _ _

theorem keeps_blockEntries_succ (since : Mark) : Keeps I (blockEntries since (fuel + 1)) := by
  rw [blockEntries]
  refine keeps_peek.bind fun t => ?_
  split
  · refine (keeps_drop hI).before (keeps_peek.bind fun next => ?_)
    extract_lets join
    have hjoin : ∀ u, Keeps I (join u) := fun _ => h.blockEntries since
    split
    · exact (keeps_absent hI _).bind hjoin
    · exact (h.node _ _).bind hjoin
  · exact (keeps_note hI _ Event.noConfusion).before (keeps_drop hI)
  · exact keeps_fail _ _ _ _

theorem keeps_unindentedEntries_succ : Keeps I (unindentedEntries (fuel + 1)) := by
  rw [unindentedEntries]
  refine keeps_peek.bind fun t => ?_
  split
  · refine (keeps_drop hI).before (keeps_peek.bind fun next => ?_)
    extract_lets join
    have hjoin : ∀ u, Keeps I (join u) := fun _ => h.unindentedEntries
    split
    · exact (keeps_absent hI _).bind hjoin
    · exact (h.node _ _).bind hjoin
  · exact keeps_note hI _ Event.noConfusion

theorem keeps_blockPairs_succ (since : Mark) : Keeps I (blockPairs since (fuel + 1)) := by
  rw [blockPairs]
  refine keeps_peek.bind fun t => ?_
  split
  · refine (keeps_drop hI).before (keeps_peek.bind fun next => ?_)
    extract_lets join
    have hjoin : ∀ u, Keeps I (join u) := fun _ => h.blockValue.before (h.blockPairs since)
    split
    · exact (keeps_absent hI _).bind hjoin
    · exact (h.node _ _).bind hjoin
  · exact (keeps_note hI _ Event.noConfusion).before (keeps_drop hI)
  · exact keeps_fail _ _ _ _

theorem keeps_blockValue_succ : Keeps I (blockValue (fuel + 1)) := by
  rw [blockValue]
  refine keeps_peek.bind fun t => ?_
  split
  · refine (keeps_drop hI).before (keeps_peek.bind fun next => ?_)
    split
    · exact keeps_absent hI _
    · exact h.node _ _
  · exact keeps_absent hI _

theorem keeps_flowItems_succ (since : Mark) (first : Bool) :
    Keeps I (flowItems since first (fuel + 1)) := by
  rw [flowItems]
  refine keeps_peek.bind fun t => ?_
  split
  · exact (keeps_note hI _ Event.noConfusion).before (keeps_drop hI)
  · extract_lets join
    have hjoin : ∀ u, Keeps I (join u) := by
      refine fun _ => keeps_peek.bind fun t => ?_
      split
      · exact (keeps_note hI _ Event.noConfusion).before (keeps_drop hI)
      · exact (keeps_note hI _ Event.noConfusion).before
          ((keeps_drop hI).before (h.singlePair.before (h.flowItems since false)))
      · exact (h.node _ _).before (h.flowItems since false)
    split
    · exact hjoin ()
    · split
      · exact (keeps_drop hI).bind hjoin
      · exact (keeps_fail _ _ _ _).bind hjoin

theorem keeps_singlePair_succ : Keeps I (singlePair (fuel + 1)) := by
  rw [singlePair]
  refine keeps_peek.bind fun t => ?_
  extract_lets close join
  have hclose : ∀ u, Keeps I (close u) :=
    fun _ => keeps_peek.bind fun t => keeps_note hI _ Event.noConfusion
  have hjoin : ∀ u, Keeps I (join u) := by
    refine fun _ => keeps_peek.bind fun t => ?_
    split
    · refine (keeps_drop hI).before (keeps_peek.bind fun t => ?_)
      split
      · exact (keeps_absent hI _).bind hclose
      · exact (keeps_absent hI _).bind hclose
      · exact (h.node _ _).bind hclose
    · exact (keeps_absent hI _).bind hclose
  split
  · exact (keeps_drop hI).before ((keeps_absent hI _).bind hjoin)
  · exact (keeps_drop hI).before ((keeps_absent hI _).bind hjoin)
  · exact (keeps_drop hI).before ((keeps_absent hI _).bind hjoin)
  · exact (h.node _ _).bind hjoin

theorem keeps_flowPairs_succ (since : Mark) (first : Bool) :
    Keeps I (flowPairs since first (fuel + 1)) := by
  rw [flowPairs]
  refine keeps_peek.bind fun t => ?_
  split
  · exact (keeps_note hI _ Event.noConfusion).before (keeps_drop hI)
  · extract_lets value join
    have hvalue : ∀ u, Keeps I (value u) :=
      fun _ => h.flowValue.before (h.flowPairs since false)
    have hjoin : ∀ u, Keeps I (join u) := by
      refine fun _ => keeps_peek.bind fun t => ?_
      split
      · exact (keeps_note hI _ Event.noConfusion).before (keeps_drop hI)
      · refine (keeps_drop hI).before (keeps_peek.bind fun t => ?_)
        split
        · exact (keeps_absent hI _).bind hvalue
        · exact (keeps_absent hI _).bind hvalue
        · exact (keeps_absent hI _).bind hvalue
        · exact (h.node _ _).bind hvalue
      · exact (h.node _ _).before
          (keeps_peek.bind fun _ => (keeps_absent hI _).before (h.flowPairs since false))
    split
    · exact hjoin ()
    · split
      · exact (keeps_drop hI).bind hjoin
      · exact (keeps_fail _ _ _ _).bind hjoin

theorem keeps_flowValue_succ : Keeps I (flowValue (fuel + 1)) := by
  rw [flowValue]
  refine keeps_peek.bind fun t => ?_
  split
  · refine (keeps_drop hI).before (keeps_peek.bind fun t => ?_)
    split
    · exact keeps_absent hI _
    · exact keeps_absent hI _
    · exact h.node _ _
  · exact keeps_absent hI _

omit h

/-- **What the three steps keep is kept by every part that reads nodes.** -/
theorem keepsNodes (fuel : Nat) : KeepsNodes I fuel := by
  induction fuel with
  | zero =>
    exact ⟨fun _ _ => keeps_pure _, fun _ => keeps_pure _, keeps_pure _, fun _ => keeps_pure _,
      keeps_pure _, fun _ _ => keeps_pure _, keeps_pure _, fun _ _ => keeps_pure _, keeps_pure _⟩
  | succ fuel h =>
    exact ⟨keeps_node_succ hI h, keeps_blockEntries_succ hI h, keeps_unindentedEntries_succ hI h,
      keeps_blockPairs_succ hI h, keeps_blockValue_succ hI h, keeps_flowItems_succ hI h,
      keeps_singlePair_succ hI h, keeps_flowPairs_succ hI h, keeps_flowValue_succ hI h⟩

/-! ### Around documents -/

theorem keeps_directives (versioned : Bool) (fuel : Nat) :
    Keeps I (directives versioned fuel) := by
  induction fuel generalizing versioned with
  | zero => exact keeps_pure _
  | succ fuel ih =>
    rw [directives]
    refine keeps_peek.bind fun t => ?_
    split
    · extract_lets known join
      have hknown : ∀ u, Keeps I (known u) := fun _ => (keeps_drop hI).before (ih true)
      have hjoin : ∀ u, Keeps I (join u) := by
        intro _
        dsimp only [join]
        split
        · exact (keeps_throw _).bind hknown
        · exact hknown ()
      split
      · exact (keeps_throw _).bind hjoin
      · exact hjoin ()
    · refine keeps_get.bind fun r => ?_
      extract_lets join
      have hjoin : ∀ u, Keeps I (join u) :=
        fun _ => (keeps_handles hI _).before ((keeps_drop hI).before (ih versioned))
      split
      · exact (keeps_throw _).bind hjoin
      · exact hjoin ()
    · exact keeps_pure _

theorem keeps_documentEnd : Keeps I documentEnd := by
  rw [documentEnd]
  refine keeps_peek.bind fun t => ?_
  extract_lets join
  have hjoin : ∀ u, Keeps I (join u) := fun _ => keeps_note hI _ Event.noConfusion
  split
  · exact (keeps_drop hI).bind hjoin
  · exact hjoin ()

theorem keeps_strayEnds (fuel : Nat) : Keeps I (strayEnds fuel) := by
  induction fuel with
  | zero => exact keeps_pure _
  | succ fuel ih =>
    rw [strayEnds]
    refine keeps_peek.bind fun t => ?_
    split
    · exact (keeps_drop hI).before ih
    · exact keeps_pure _

end Stable

/-! ## Documents -/

/-- The end of the stream was not noted. -/
def Unended (r : Reading) : Prop := ∀ p ∈ r.noted, p.event ≠ .streamEnd

/-- A reading of tokens and the fault behind them, with at most so many of
the tokens to come, that has not noted the end. -/
structure Open (tokens : List Token) (fault : Option Fault) (count : Nat) (r : Reading) :
    Prop where
  tokens : r.tokens <:+ tokens
  length_le : r.tokens.length ≤ count
  fault : r.fault = fault
  unended : Unended r

/-- A reading that has noted the end and nothing behind it, at a token that
ends the stream or behind all tokens. -/
structure Ended (tokens : List Token) (fault : Option Fault) (r : Reading) : Prop where
  noted : ∃ mark before, r.noted = ⟨.streamEnd, mark⟩ :: before ∧
    ∀ p ∈ before, p.event ≠ .streamEnd
  settled : (∃ t ∈ tokens, t.kind = .streamEnd) ∨ fault = none

variable {tokens : List Token} {fault : Option Fault} {count : Nat}

theorem stable_open : Stable (Open tokens fault count) where
  drop h := ⟨(List.tail_suffix _).trans h.tokens,
    Nat.le_trans (List.tail_sublist _).length_le h.length_le, h.fault, h.unended⟩
  handles _ h := ⟨h.tokens, h.length_le, h.fault, h.unended⟩
  note _ he h := ⟨h.tokens, h.length_le, h.fault, List.forall_mem_cons.2 ⟨he, h.unended⟩⟩

/-- What keeps an open reading open leads from one to another. -/
theorem Keeps.leads (h : Keeps (Open tokens fault count) x) :
    Leads x (Open tokens fault count) (fun _ => Open tokens fault count) Unended :=
  h.mono (fun _ hr => hr) (fun _ _ hr => hr) fun _ hr => hr.unended

theorem leads_unless {c : Prop} [Decidable c] {y : Grammar Unit} {g : Unit → Grammar β}
    (hy : Leads y P (fun _ => P) L) (hg : Leads (g ()) P R L) :
    Leads (if c then g () else y >>= g) P R L := by
  split
  · exact hg
  · exact hy.bind fun _ => hg

/-- The end is noted where a token that ends the stream is next. -/
theorem leads_note_streamEnd {t : Token} (h : t.kind = .streamEnd) :
    Leads (note .streamEnd t.start) (fun r => Open tokens fault count r ∧ Next r t)
      (fun _ => Ended tokens fault) Unended := by
  refine leads_modify fun r hr => ?_
  obtain ⟨hopen, hnext⟩ := hr
  refine ⟨⟨_, _, rfl, hopen.unended⟩, ?_⟩
  rcases hnext with hhead | ⟨-, hfault, -⟩
  · exact .inl ⟨t, hopen.tokens.subset (List.mem_of_head? hhead), h⟩
  · exact .inr (hopen.fault.symm.trans hfault)

/-- Behind a token that is not the one beyond the last there is one token less. -/
theorem leads_drop_next {t : Token} (h : t.kind ≠ .streamEnd) :
    Leads drop (fun r => Open tokens fault count r ∧ Next r t)
      (fun _ r => 0 < count ∧ Open tokens fault (count - 1) r) Unended := by
  refine leads_modify fun r hr => ?_
  obtain ⟨hopen, hnext⟩ := hr
  rcases hnext with hhead | ⟨-, -, rfl⟩
  · have hpos : 0 < r.tokens.length := List.length_pos_of_mem (List.mem_of_head? hhead)
    have hle : r.tokens.length ≤ count := hopen.length_le
    have hless : r.tokens.tail.length ≤ count - 1 := by
      rw [List.length_tail]
      omega
    have hdropped := stable_open.drop hopen
    exact ⟨by omega, hdropped.tokens, hless, hdropped.fault, hdropped.unended⟩
  · exact absurd rfl h

/-- A document costs a token at least, the one that starts it, unless it is the first. -/
theorem leads_documents (size fuel : Nat) {first : Bool} (hfuel : count + first.toNat < fuel) :
    Leads (documents first size fuel) (Open tokens fault count) (fun _ => Ended tokens fault)
      Unended := by
  induction fuel generalizing first count with
  | zero => exact absurd hfuel (Nat.not_lt_zero _)
  | succ fuel ih =>
    have hI : ∀ {count}, Stable (Open tokens fault count) := stable_open
    rw [documents]
    refine leads_unless (keeps_strayEnds hI size).leads ?_
    refine (leads_peek fun r hr => hr.unended).bind fun t => ?_
    refine (leads_modify (Q := fun _ r => Open tokens fault count r ∧ Next r t) ?_).bind fun _ => ?_
    · exact fun r hr => ⟨hI.handles [] hr.1, hr.2⟩
    split
    · rename_i hend
      exact leads_note_streamEnd (beq_iff_eq.1 hend)
    · split
      case isTrue hbare =>
        -- A document without a mark may cost no token, but only the first one has none.
        have hfirst : first = true := by
          rcases Bool.or_eq_true_iff.1 hbare with h | h
          · exact (Bool.and_eq_true_iff.1 h).1
          · exact (Bool.and_eq_true_iff.1 h).1
        have hrest : count + false.toNat < fuel := by
          rw [hfirst] at hfuel
          exact Nat.lt_of_succ_lt_succ hfuel
        have hbody : Leads (do
            modify fun r => { r with handles := standardHandles }
            note .documentStart t.start
            node true false size
            documentEnd
            documents false size fuel) (Open tokens fault count) (fun _ => Ended tokens fault)
              Unended :=
          (keeps_handles hI _).leads.bind fun _ => (keeps_note hI _ Event.noConfusion).leads.bind
            fun _ => ((keepsNodes hI size).node true false).leads.bind
              fun _ => (keeps_documentEnd hI).leads.bind fun _ => ih hrest
        exact hbody.mono (fun r hr => hr.1) (fun _ _ h => h) fun _ h => h
      case isFalse hmarked =>
        -- The mark is a token of the text, so the documents behind it have one token less.
        refine Leads.mono (P := Open tokens fault count) ?_ (fun r hr => hr.1) (fun _ _ h => h)
          fun _ h => h
        refine (keeps_directives hI false size).leads.bind fun _ =>
          (keeps_handles hI _).leads.bind fun _ =>
            (leads_peek fun r hr => hr.unended).bind fun start => ?_
        extract_lets behind join
        have hbehind : 0 < count → ∀ u, Leads (behind u) (Open tokens fault (count - 1))
            (fun _ => Ended tokens fault) Unended := by
          refine fun hpos _ => (keeps_documentEnd hI).leads.bind fun _ => ih ?_
          rw [Bool.toNat_false]
          omega
        split
        · exact leads_throw_bind _ fun r hr => hr.1.unended
        · rename_i hstart
          have hkind : start.kind ≠ .streamEnd := by
            intro hend
            rw [hend] at hstart
            exact hstart rfl
          refine (leads_modify fun r hr => ⟨hI.note t.start Event.noConfusion hr.1, hr.2⟩).bind
            fun _ => (leads_drop_next hkind).bind fun _ => leads_given fun hpos => ?_
          refine (keeps_peek.leads).bind fun t => ?_
          split
          · exact (keeps_absent hI _).leads.bind (hbehind hpos)
          · exact ((keepsNodes hI size).node true false).leads.bind (hbehind hpos)

theorem leads_stream {size : Nat} (hsize : tokens.length + 1 < size) :
    Leads (stream size) (Open tokens fault tokens.length) (fun _ => Ended tokens fault)
      Unended := by
  rw [stream]
  exact keeps_peek.map.leads.bind fun _ => (keeps_drop stable_open).leads.bind fun _ =>
    leads_documents size size hsize

end Grammar

/-! ## The events of a text -/

namespace Events

variable {text : List Char}

/-- The reading of a text begins open and leads where all readings of streams do. -/
theorem ofText_cases (text : List Char) :
    (∃ r, Grammar.Ended (Tokens.ofText text).1 (Tokens.ofText text).2 r ∧
      ofText text = (r.noted.reverse, none)) ∨
    ∃ r fault, Grammar.Unended r ∧ ofText text = (r.noted.reverse, some fault) := by
  rw [ofText]
  obtain ⟨tokens, fault⟩ := Tokens.ofText text
  have hopen : Grammar.Open tokens fault tokens.length ⟨tokens, fault, [], []⟩ :=
    ⟨List.suffix_refl _, Nat.le_refl _, rfl, List.forall_mem_nil _⟩
  have hsize : tokens.length + 1 < 4 * tokens.length + 8 := by omega
  obtain ⟨hok, hfail⟩ := Grammar.leads_stream hsize _ hopen
  dsimp only [EStateM.run]
  cases hrun : Grammar.stream (4 * tokens.length + 8) ⟨tokens, fault, [], []⟩ with
  | ok a r => exact .inl ⟨r, hok a r hrun, rfl⟩
  | error f r => exact .inr ⟨r, f, hfail f r hrun, rfl⟩

/-- **A text whose reading fails has no end of the stream among its events.** -/
theorem ne_streamEnd_of_fault (h : (ofText text).2 ≠ none) :
    ∀ p ∈ (ofText text).1, p.event ≠ .streamEnd := by
  rcases ofText_cases text with ⟨r, -, heq⟩ | ⟨r, fault, hunended, heq⟩
  · rw [heq] at h
    exact absurd rfl h
  · rw [heq]
    exact fun p hp => hunended p (List.mem_reverse.1 hp)

/-- **In one whose reading does not fail the end of the stream is the last event**,
and there alone; and a token ends the stream, or no fault is behind the tokens. -/
theorem ended_of_no_fault (h : (ofText text).2 = none) :
    (∃ before mark, (ofText text).1 = before ++ [⟨.streamEnd, mark⟩] ∧
      ∀ p ∈ before, p.event ≠ .streamEnd) ∧
    ((∃ t ∈ (Tokens.ofText text).1, t.kind = .streamEnd) ∨ (Tokens.ofText text).2 = none) := by
  rcases ofText_cases text with ⟨r, ⟨⟨mark, before, hnoted, hbefore⟩, hsettled⟩, heq⟩ |
    ⟨r, fault, -, heq⟩
  · refine ⟨⟨before.reverse, mark, ?_, fun p hp => hbefore p (List.mem_reverse.1 hp)⟩, hsettled⟩
    rw [heq, hnoted, List.reverse_cons]
  · rw [heq] at h
    exact nomatch h

end Events

end Yaml

end DeployLint
