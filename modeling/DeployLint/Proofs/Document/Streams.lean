import DeployLint.Proofs.Document.Reading
import DeployLint.Proofs.Yaml.Events
import DeployLint.Proofs.Yaml.Tokens

/-!
# Document — one document and a stream of them

A text is read as a single document or as a stream. Both readings look at the
same raw documents: a stream at all of them, a single document at the first,
and at whether it is the only one. Hence they agree (`parse_eq_ok_iff_stream`),
and since every fault of form, wherever it stands, ends up in one of the raw
documents, a text that is malformed anywhere is refused by both.
-/

namespace DeployLint

namespace Yaml

variable {fault : Option Fault} {f : Fault} {d : Draft} {finished : Bool} {raw : RawDocument}
variable {events before : List Placed} {text : String}

/-! ## Raw documents -/

/-- What an event does to the document that is being put together. -/
inductive Takes (fault : Option Fault) (d : Draft) (p : Placed) : Prop
  /-- It becomes a part of the document. -/
  | part (d' : Draft) : p.event ≠ .documentEnd → p.event ≠ .streamEnd →
      (∀ finished rest, rawDocuments fault d finished (p :: rest) =
        rawDocuments fault d' finished rest) → Takes fault d p
  /-- It is a fault, and nothing behind it counts. -/
  | stop (f : Fault) : (∀ finished rest, rawDocuments fault d finished (p :: rest) =
      [d.finish (some f)]) → Takes fault d p
  /-- It ends the document. -/
  | documentEnd : p.event = .documentEnd → (∀ finished rest,
      rawDocuments fault d finished (p :: rest) =
        d.finish none :: rawDocuments fault {} true rest) → Takes fault d p
  /-- It ends the stream; a stream without documents has an empty one. -/
  | streamEnd (d' : Draft) : p.event = .streamEnd → (∀ finished rest,
      rawDocuments fault d finished (p :: rest) =
        if finished then [] else [d'.finish none]) → Takes fault d p

theorem takes (fault : Option Fault) (d : Draft) (p : Placed) : Takes fault d p := by
  obtain ⟨event, mark⟩ := p
  cases event with
  | documentStart => exact .part _ Event.noConfusion Event.noConfusion fun _ _ => rfl
  | documentEnd => exact .documentEnd rfl fun _ _ => rfl
  | streamEnd => exact .streamEnd _ rfl fun _ _ => rfl
  | reference name =>
    cases hslot : d.anchors.slots.lookup name with
    | none => exact .stop (.unknownAnchor mark) fun _ _ => by rw [rawDocuments.eq_def]; simp [hslot]
    | some slot =>
      exact .part (d.push (.repeated slot) mark) Event.noConfusion Event.noConfusion
        fun _ _ => by rw [rawDocuments.eq_def]; simp [hslot]
  | scalar p text style => exact .part _ Event.noConfusion Event.noConfusion fun _ _ => rfl
  | sequenceStart p => exact .part _ Event.noConfusion Event.noConfusion fun _ _ => rfl
  | sequenceEnd => exact .part _ Event.noConfusion Event.noConfusion fun _ _ => rfl
  | mappingStart p => exact .part _ Event.noConfusion Event.noConfusion fun _ _ => rfl
  | mappingEnd => exact .part _ Event.noConfusion Event.noConfusion fun _ _ => rfl

/-- A stream with no document before has one at least. -/
theorem rawDocuments_ne_nil : rawDocuments fault d false events ≠ [] := by
  induction events generalizing d with
  | nil => cases fault <;> exact List.cons_ne_nil _ _
  | cons p events ih =>
    cases takes fault d p with
    | part d' _ _ heq => exact heq false events ▸ ih
    | stop f heq => exact heq false events ▸ List.cons_ne_nil _ _
    | documentEnd _ heq => exact heq false events ▸ List.cons_ne_nil _ _
    | streamEnd d' _ heq => exact heq false events ▸ List.cons_ne_nil _ _

/-- **A fault behind the events is a fault of some document**, unless the end
of the stream is among them. -/
theorem exists_fault_of_unended (h : ∀ p ∈ events, p.event ≠ .streamEnd) :
    ∃ raw ∈ rawDocuments (some f) d finished events, raw.fault ≠ none := by
  induction events generalizing d finished with
  | nil => exact ⟨_, List.mem_singleton_self _, Option.some_ne_none f⟩
  | cons p events ih =>
    obtain ⟨hp, hevents⟩ := List.forall_mem_cons.1 h
    cases takes (some f) d p with
    | part d' _ _ heq => exact heq finished events ▸ ih hevents
    | stop f' heq =>
      exact heq finished events ▸ ⟨_, List.mem_singleton_self _, Option.some_ne_none f'⟩
    | documentEnd _ heq =>
      obtain ⟨raw, hraw, hfault⟩ : ∃ raw ∈ rawDocuments (some f) {} true events,
          raw.fault ≠ none := ih hevents
      exact heq finished events ▸ ⟨raw, List.mem_cons_of_mem _ hraw, hfault⟩
    | streamEnd d' hend _ => exact absurd hend hp

/-- The number of documents that end among some events. -/
def documentEnds (events : List Placed) : Nat := events.countP fun p => p.event == .documentEnd

/-- **Documents without faults are as many as end before the end of the
stream**, and where none ends there is the empty one. -/
theorem length_rawDocuments (h : ∀ p ∈ before, p.event ≠ .streamEnd) (mark : Mark)
    (hfaults : ∀ raw ∈ rawDocuments none d finished (before ++ [⟨.streamEnd, mark⟩]),
      raw.fault = none) :
    (rawDocuments none d finished (before ++ [⟨.streamEnd, mark⟩])).length =
      max (1 - finished.toNat) (documentEnds before) := by
  induction before generalizing d finished with
  | nil => cases finished <;> rfl
  | cons p before ih =>
    obtain ⟨hp, hbefore⟩ := List.forall_mem_cons.1 h
    rw [List.cons_append] at hfaults ⊢
    cases takes none d p with
    | part d' hinner _ heq =>
      rw [heq] at hfaults ⊢
      rw [ih hbefore hfaults, documentEnds, documentEnds, List.countP_cons_of_neg]
      simpa using hinner
    | stop f' heq =>
      rw [heq] at hfaults
      exact nomatch hfaults _ (List.mem_singleton_self _)
    | documentEnd hend heq =>
      rw [heq] at hfaults ⊢
      rw [List.length_cons, ih hbefore (List.forall_mem_cons.1 hfaults).2, documentEnds,
        documentEnds, List.countP_cons_of_pos (by simpa using hend), Bool.toNat_true]
      omega
    | streamEnd d' hend _ => exact absurd hend hp

/-- A document is composed only if no fault of form is behind it. -/
theorem RawDocument.fault_of_compose {v : Value} (h : raw.compose = .ok v) : raw.fault = none := by
  obtain ⟨r, -, hrest⟩ := bind_eq_ok_iff.1 h
  dsimp only at hrest
  split at hrest
  · exact nomatch hrest
  · assumption

/-! ## Texts -/

theorem exists_rawDocumentsOf (text : String) : ∃ raw rest, rawDocumentsOf text = raw :: rest :=
  List.exists_cons_of_ne_nil rawDocuments_ne_nil

/-- A text with a fault of form, of its tokens or of what they are put
together to, in its first document or behind it. -/
def Malformed (text : String) : Prop :=
  (Tokens.ofText text.toList).2 ≠ none ∨ (Events.ofText text.toList).2 ≠ none

/-- A fault of the tokens is one of the events: the grammar asks for tokens
until one ends the stream. -/
theorem Malformed.fault_ne_none (h : Malformed text) : (Events.ofText text.toList).2 ≠ none := by
  refine h.elim (fun htokens hnone => ?_) id
  obtain ⟨-, ⟨t, ht, hend⟩ | hfault⟩ := Events.ended_of_no_fault hnone
  · exact Tokens.inner_of_fault htokens t ht hend
  · exact htokens hfault

/-- **A malformed text has a document with a fault.** -/
theorem Malformed.exists_fault (h : Malformed text) :
    ∃ raw ∈ rawDocumentsOf text, raw.fault ≠ none := by
  have hunended := Events.ne_streamEnd_of_fault h.fault_ne_none
  obtain ⟨f, hf⟩ := Option.ne_none_iff_exists'.1 h.fault_ne_none
  rw [rawDocumentsOf]
  dsimp only
  rw [hf]
  exact exists_fault_of_unended hunended

/-- The number of documents of a text whose documents have no faults. -/
theorem length_rawDocumentsOf (h : ∀ raw ∈ rawDocumentsOf text, raw.fault = none) :
    (rawDocumentsOf text).length = max 1 (documentEnds (Events.ofText text.toList).1) := by
  have hform : (Events.ofText text.toList).2 = none := by
    by_contra hfault
    have hmalformed : Malformed text := .inr hfault
    obtain ⟨raw, hraw, hne⟩ := hmalformed.exists_fault
    exact hne (h raw hraw)
  obtain ⟨⟨before, mark, hevents, hbefore⟩, -⟩ := Events.ended_of_no_fault hform
  rw [rawDocumentsOf] at h ⊢
  dsimp only at h ⊢
  rw [hform, hevents] at h ⊢
  rw [length_rawDocuments hbefore mark h, documentEnds, documentEnds, List.countP_append,
    List.countP_singleton]
  rfl

end Yaml

namespace Document

open Yaml (Malformed documentEnds)

variable {text : String} {d : Document} {ds : List Document}

/-! ## Two readings -/

section Cons

variable {raw : Yaml.RawDocument} {rest : List Yaml.RawDocument} {v : Yaml.Value}

/-- A single document fails where its first raw document does. -/
theorem parse_of_compose_error {f : Yaml.Fault} (h : Yaml.rawDocumentsOf text = raw :: rest)
    (hraw : raw.compose = .error f) : parse text = .error (.ofYaml f) := by
  rw [parse, Yaml.read, h]
  dsimp only
  rw [hraw]
  rfl

/-- It is that one where there is no other. -/
theorem parse_of_compose_ok (h : Yaml.rawDocumentsOf text = raw :: rest)
    (hraw : raw.compose = .ok v) :
    parse text = if rest = [] then .ok v.toDocument else .error (.ofYaml .severalDocuments) := by
  rw [parse, Yaml.read, h]
  dsimp only
  rw [hraw]
  cases rest <;> rfl

end Cons

/-- **A text is a single document exactly if it is a stream of that one.** -/
theorem parse_eq_ok_iff_stream : parse text = .ok d ↔ parseStream text = .ok [d] := by
  obtain ⟨raw, rest, hraws⟩ := Yaml.exists_rawDocumentsOf text
  rw [parseStream_eq_ok_iff, hraws, List.forall₂_cons, List.forall₂_nil_right_iff]
  cases hraw : raw.compose with
  | error f =>
    rw [parse_of_compose_error hraws hraw]
    exact ⟨fun h => (nomatch h), fun ⟨⟨_, h, _⟩, _⟩ => (nomatch h)⟩
  | ok v =>
    rw [parse_of_compose_ok hraws hraw]
    by_cases hrest : rest = []
    · rw [if_pos hrest]
      simp [hrest]
    · rw [if_neg hrest]
      exact ⟨fun h => (nomatch h), fun h => absurd h.2 hrest⟩

/-- A stream of several documents is not a single one. -/
theorem parse_of_several (h : parseStream text = .ok ds) (hds : 1 < ds.length) :
    parse text = .error (.ofYaml .severalDocuments) := by
  obtain ⟨raw, rest, hraws⟩ := Yaml.exists_rawDocumentsOf text
  have hread := parseStream_eq_ok_iff.1 h
  rw [← hread.length_eq, hraws] at hds
  rw [hraws] at hread
  obtain ⟨d, others, ⟨v, hv, -⟩, -, -⟩ := List.forall₂_cons_left_iff.1 hread
  rw [parse_of_compose_ok hraws hv]
  exact if_neg (List.ne_nil_of_length_pos (Nat.lt_of_succ_lt_succ hds))

/-- What a stream is refused for, a single document is refused for, unless the
fault is behind the first document. -/
theorem parse_of_stream_error {e : LintError} (h : parseStream text = .error e) :
    parse text = .error e ∨ parse text = .error (.ofYaml .severalDocuments) := by
  obtain ⟨raw, rest, hraws⟩ := Yaml.exists_rawDocumentsOf text
  rw [parseStream, Yaml.readStream, hraws, List.mapM_cons] at h
  cases hraw : raw.compose with
  | error f =>
    rw [hraw] at h
    have he : LintError.ofYaml f = e := Except.error.inj h
    exact .inl (he ▸ parse_of_compose_error hraws hraw)
  | ok v =>
    refine .inr ((parse_of_compose_ok hraws hraw).trans (if_neg ?_))
    rintro rfl
    rw [hraw] at h
    cases h

/-- The raw documents of a stream that is read have no faults. -/
theorem fault_of_parseStream (h : parseStream text = .ok ds) :
    ∀ raw ∈ Yaml.rawDocumentsOf text, raw.fault = none := by
  have hread : List.Forall₂ (fun raw (_ : Document) => raw.fault = none ∧ True)
      (Yaml.rawDocumentsOf text) ds :=
    (parseStream_eq_ok_iff.1 h).imp fun raw d ⟨v, hv, _⟩ => ⟨raw.fault_of_compose hv, trivial⟩
  exact ((List.forall₂_and_left _ _).1 hread).1

theorem length_of_parseStream (h : parseStream text = .ok ds) :
    ds.length = max 1 (documentEnds (Yaml.Events.ofText text.toList).1) := by
  rw [← (parseStream_eq_ok_iff.1 h).length_eq]
  exact Yaml.length_rawDocumentsOf (fault_of_parseStream h)

/-- **A malformed text is no stream**, wherever its fault is. -/
theorem exists_error_of_malformed (h : Malformed text) : ∃ e, parseStream text = .error e := by
  cases hds : parseStream text with
  | error e => exact ⟨e, rfl⟩
  | ok ds =>
    obtain ⟨raw, hraw, hfault⟩ := h.exists_fault
    exact absurd (fault_of_parseStream hds raw hraw) hfault

/-! ## The result -/

/-- **Reading one document and reading a stream agree on every text.** A text
is the one document exactly if it is the stream of that one. A stream has as
many documents as end in the text, or the empty one, and several of them are
refused as a single document. A text that is refused as a stream is refused as
a single document too, for the same fault or for another document in front of
it. And a text that is malformed, in its first document or behind it, is
refused by both, so no document is one that was cut short. -/
theorem parse_agrees_with_parseStream (text : String) :
    (∀ d, parse text = .ok d ↔ parseStream text = .ok [d]) ∧
    (∀ ds, parseStream text = .ok ds →
      ds.length = max 1 (documentEnds (Yaml.Events.ofText text.toList).1) ∧
      (1 < ds.length → parse text = .error (.ofYaml .severalDocuments))) ∧
    (∀ e, parseStream text = .error e →
      parse text = .error e ∨ parse text = .error (.ofYaml .severalDocuments)) ∧
    (Malformed text → (∃ e, parse text = .error e) ∧ ∃ e, parseStream text = .error e) := by
  refine ⟨fun d => parse_eq_ok_iff_stream,
    fun ds hds => ⟨length_of_parseStream hds, parse_of_several hds⟩,
    fun e => parse_of_stream_error, fun hmalformed => ?_⟩
  obtain ⟨e, he⟩ := exists_error_of_malformed hmalformed
  exact ⟨(parse_of_stream_error he).elim (fun h => ⟨_, h⟩) fun h => ⟨_, h⟩, e, he⟩

/-- A document with a mark of its end, one with a separator behind it, and one
with a bracket or an unknown alias in a document behind it. -/
theorem parse_agrees_with_parseStream_separators :
    (∃ d, parseStream "a\n...\n" = .ok [d] ∧ parse "a\n...\n" = .ok d) ∧
    (∃ ds, parseStream "a\n---\n" = .ok ds ∧ ds.length = 2 ∧
      parse "a\n---\n" = .error (.ofYaml .severalDocuments)) ∧
    (Malformed "a\n---\n]\n" ∧ ∃ e, parse "a\n---\n]\n" = .error e) ∧
    ∃ e, parseStream "a\n---\n*b\n" = .error e ∧
      (parse "a\n---\n*b\n" = .error e ∨
        parse "a\n---\n*b\n" = .error (.ofYaml .severalDocuments)) := by
  obtain ⟨hone, -, -, -⟩ := parse_agrees_with_parseStream "a\n...\n"
  obtain ⟨-, hseveral, -, -⟩ := parse_agrees_with_parseStream "a\n---\n"
  obtain ⟨-, -, -, hmalformed⟩ := parse_agrees_with_parseStream "a\n---\n]\n"
  obtain ⟨-, -, hrefused, -⟩ := parse_agrees_with_parseStream "a\n---\n*b\n"
  have hended : (parseStream "a\n...\n").toOption.any (fun ds => ds.length == 1) = true := by
    decide +kernel
  have htwo : (parseStream "a\n---\n").toOption.any (fun ds => ds.length == 2) = true := by
    decide +kernel
  have hbracket : (Yaml.Events.ofText "a\n---\n]\n".toList).2.isSome = true := by decide +kernel
  have halias : (parseStream "a\n---\n*b\n").toOption.isSome = false := by decide +kernel
  refine ⟨?one, ?two, ?bracket, ?unknown⟩
  case one =>
    obtain ⟨ds, hds, hlength⟩ := exists_ok_of_any hended
    obtain ⟨d, rfl⟩ := List.length_eq_one_iff.1 (beq_iff_eq.1 hlength)
    exact ⟨d, hds, (hone d).2 hds⟩
  case two =>
    obtain ⟨ds, hds, hlength⟩ := exists_ok_of_any htwo
    have hlength : ds.length = 2 := beq_iff_eq.1 hlength
    exact ⟨ds, hds, hlength, (hseveral ds hds).2 (by omega)⟩
  case bracket =>
    have hform : Malformed "a\n---\n]\n" := .inr (Option.isSome_iff_ne_none.1 hbracket)
    exact ⟨hform, (hmalformed hform).1⟩
  case unknown =>
    cases hread : parseStream "a\n---\n*b\n" with
    | ok ds =>
      rw [hread] at halias
      exact nomatch halias
    | error e => exact ⟨e, rfl, hrefused e hread⟩

end Document

end DeployLint
