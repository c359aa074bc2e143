import Fmarch.Forum.Mentions
import Fmarch.Lib.StableSort

/-!
# The segments of a body (`buildDecidedMentionSegments`)

The renderer cuts a body at its decided mentions. It cuts the bytes, and decodes each slice on its own, with a
decoder that leaves out a byte order mark at the start of what it decodes. A slice that is a mention starts
with `@`, so what gets lost stands at the start of the body or right behind a mention.

**`segments_lossless_iff`**: the segments of an accepted list show each mention in order, and join to the body
exactly when no slice starts with that mark.
-/

namespace Fmarch.Forum.Segments

open Platform StableSort

/-! ## The renderer -/

/-- A mention with what its surface shows for its target. -/
structure Span (T : Type) where
  offset : Nat
  len : Nat
  target : T

inductive Segment (T : Type) where
  | plain (text : String)
  | mention (text : String) (target : T)

def Segment.text {T : Type} : Segment T → String
  | .plain text => text
  | .mention text _ => text

def Segment.isMention {T : Type} : Segment T → Bool
  | .plain _ => false
  | .mention .. => true

/-- The text starts with U+FEFF. -/
def Marked (text : String) : Prop := text.toList.head? = some '\uFEFF'

instance : DecidablePred Marked := fun _ => inferInstanceAs (Decidable (_ = _))

/-- What is left of a text once its byte order mark is left out. -/
def unmarked (text : String) : String := if Marked text then .ofList text.toList.tail else text

/-- `TextDecoder.decode`; `repaired` is what it makes of bytes that are not UTF-8. -/
def decode (repaired : ByteArray → String) (bytes : ByteArray) : String :=
  match String.fromUTF8? bytes with
  | some text => unmarked text
  | none => repaired bytes

variable {C D M T : Type} (repaired : ByteArray → String)

/-- The loop over the spans, from the cursor on. -/
def segmentsFrom (bytes : ByteArray) (cursor : Nat) : List (Span T) → List (Segment T)
  | [] => if cursor < bytes.size then [.plain (decode repaired (bytes.extract cursor bytes.size))] else []
  | span :: spans =>
    if span.offset < cursor then segmentsFrom bytes cursor spans
    else
      (if cursor < span.offset then [.plain (decode repaired (bytes.extract cursor span.offset))] else []) ++
        .mention (decode repaired (bytes.extract span.offset (span.offset + span.len))) span.target ::
          segmentsFrom bytes (span.offset + span.len) spans

/-- `buildDecidedMentionSegments`, with the span of a mention and what `resolveTarget` gives for it. -/
def buildDecidedMentionSegments (body : String) (mentions : List D) (span : D → MentionSpan)
    (resolveTarget : D → T) : List (Segment T) :=
  let bytes := body.toUTF8
  let spans := mentions.map fun mention =>
    Span.mk (span mention).offset (span mention).len (resolveTarget mention)
  let inside := spans.filter fun span => 0 < span.len && span.offset + span.len ≤ bytes.size
  let segments := segmentsFrom repaired bytes 0 (sortBy (compareOn Span.offset) inside)
  segments.filter fun segment => segment.text != ""

/-! ## Slices -/

variable {text before after body : String}

theorem unmarked_of_not (h : ¬ Marked text) : unmarked text = text := if_neg h

theorem unmarked_shorter (h : Marked text) : (unmarked text).utf8ByteSize < text.utf8ByteSize := by
  obtain ⟨rest, hrest⟩ := List.head?_eq_some_iff.1 h
  have htext : text = "\uFEFF" ++ .ofList rest := by
    rw [← String.toList_inj, hrest, String.toList_append, String.toList_ofList]
    simp
  have hmark : 0 < ("\uFEFF" : String).utf8ByteSize := by decide
  rw [unmarked, if_pos h, hrest, List.tail_cons, htext, String.utf8ByteSize_append]
  omega

theorem unmarked_le : (unmarked text).utf8ByteSize ≤ text.utf8ByteSize := by
  by_cases h : Marked text
  · exact (unmarked_shorter h).le
  · rw [unmarked_of_not h]

/-- A text behind its unmarked self is itself only where there is no mark. -/
theorem glue_iff {tail tail' : String} (h : tail'.utf8ByteSize ≤ tail.utf8ByteSize) :
    unmarked text ++ tail' = text ++ tail ↔ ¬ Marked text ∧ tail' = tail := by
  constructor
  · intro heq
    have hsize := congrArg String.utf8ByteSize heq
    rw [String.utf8ByteSize_append, String.utf8ByteSize_append] at hsize
    have hbare : ¬ Marked text := fun hmarked => by
      have := unmarked_shorter hmarked
      omega
    rw [unmarked_of_not hbare] at heq
    exact ⟨hbare, by simpa using heq⟩
  · rintro ⟨hbare, rfl⟩
    rw [unmarked_of_not hbare]

/-- What stands in the body from a place on. -/
def rest (body : String) (start : Nat) : String := byteSlice body start body.utf8ByteSize

theorem isCharBoundary_end : isCharBoundary body body.utf8ByteSize :=
  isCharBoundary_iff.2 ⟨body, "", String.append_empty.symm, rfl⟩

theorem rest_end : rest body body.utf8ByteSize = "" := by
  have h := byteSlice_append body "" ""
  simpa [rest] using h

/-- A slice between two boundaries decodes to what stands there, but for its mark. -/
theorem slice {start stop : Nat} (hle : start ≤ stop) (hstart : isCharBoundary body start)
    (hstop : isCharBoundary body stop) : rest body start = byteSlice body start stop ++ rest body stop ∧
      start + (byteSlice body start stop).utf8ByteSize = stop ∧
      decode repaired (body.toUTF8.extract start stop) = unmarked (byteSlice body start stop) := by
  obtain ⟨before, text, after, rfl, rfl, rfl⟩ := exists_between hle hstart hstop
  have hafter : rest (before ++ text ++ after) (before.utf8ByteSize + text.utf8ByteSize) = after := by
    have h := byteSlice_append (before ++ text) after ""
    simpa [rest, String.utf8ByteSize_append] using h
  have hrest : rest (before ++ text ++ after) before.utf8ByteSize = text ++ after := by
    have h := byteSlice_append before (text ++ after) ""
    simpa [rest, String.utf8ByteSize_append, String.append_assoc, Nat.add_assoc] using h
  have hbytes : (before ++ text ++ after).toUTF8.extract before.utf8ByteSize
      (before.utf8ByteSize + text.utf8ByteSize) = text.toByteArray := by
    rw [String.toUTF8_eq_toByteArray, String.append_assoc, String.toByteArray_append,
      String.toByteArray_append, ← String.size_toByteArray, ← String.size_toByteArray]
    have hdrop := ByteArray.extract_append_size_add (a := before.toByteArray)
      (b := text.toByteArray ++ after.toByteArray) (i := 0) (j := text.toByteArray.size)
    rw [Nat.add_zero] at hdrop
    rw [hdrop]
    exact ByteArray.extract_append_eq_left rfl
  refine ⟨by rw [hafter, hrest, byteSlice_append], by rw [byteSlice_append], ?_⟩
  rw [hbytes, byteSlice_append, decode, String.fromUTF8?, dif_pos text.isValidUTF8]
  rfl

/-! ## The segments of an accepted list -/

/-- A segment shows a candidate: it reads `@` and its name. -/
def Shows (rules : MentionRules C M D) (resolveTarget : D → T) (candidate : C) (segment : Segment T) : Prop :=
  ∃ name, rules.name candidate = some name ∧
    segment = .mention ("@" ++ name) (resolveTarget (rules.decided candidate))

/-- U+FEFF stands neither at the start of the body nor right behind a mention. -/
def Bare (body : String) (spans : List MentionSpan) : Prop :=
  ∀ start ∈ 0 :: spans.map (fun span => span.offset + span.len), ¬ Marked (rest body start)

instance (body : String) (spans : List MentionSpan) : Decidable (Bare body spans) :=
  inferInstanceAs (Decidable (∀ start ∈ _, _))

/-- The texts of the segments, one after the other. -/
def joined (segments : List (Segment T)) : String := String.join (segments.map Segment.text)

variable {rules : MentionRules C M D} {resolveTarget : D → T}

def spanOf (rules : MentionRules C M D) (resolveTarget : D → T) (candidate : C) : Span T where
  offset := (rules.span candidate).offset
  len := (rules.span candidate).len
  target := resolveTarget (rules.decided candidate)

theorem marked_append {tail : String} (h : ¬ Marked tail) : Marked (text ++ tail) ↔ Marked text := by
  unfold Marked at *
  rw [String.toList_append]
  cases htext : text.toList with
  | nil => simpa using h
  | cons c chars => simp

theorem not_marked_mention : ¬ Marked ("@" ++ text) := by
  unfold Marked
  rw [String.toList_append]
  simp

theorem joined_cons (segment : Segment T) (segments : List (Segment T)) :
    joined (segment :: segments) = segment.text ++ joined segments :=
  String.join_cons

theorem joined_append (segments segments' : List (Segment T)) :
    joined (segments ++ segments') = joined segments ++ joined segments' := by
  simp [joined]

/-- What is cut in front of a mention, or behind the last one. -/
theorem joined_plain {start stop : Nat} (hle : start ≤ stop) (hstart : isCharBoundary body start)
    (hstop : isCharBoundary body stop) :
    joined (T := T) (if start < stop then [.plain (decode repaired (body.toUTF8.extract start stop))] else []) =
      unmarked (byteSlice body start stop) := by
  obtain ⟨-, hsize, hdecode⟩ := slice repaired hle hstart hstop
  split
  · rw [← hdecode]
    simp [joined, Segment.text]
  · have hnone : byteSlice body start stop = "" := String.utf8ByteSize_eq_zero_iff.1 (by omega)
    rw [hnone, unmarked_of_not (by decide)]
    rfl

/-- The segments from a cursor on: by induction on the spans still to come. -/
theorem segmentsFrom_spec {candidates : List C}
    (hreads : ∀ candidate ∈ candidates, ReadsName rules body candidate) (hdisjoint : candidates.Pairwise fun candidate candidate' =>
      (rules.span candidate).offset + (rules.span candidate).len ≤ (rules.span candidate').offset) :
    ∀ cursor, isCharBoundary body cursor →
      (∀ candidate ∈ candidates, cursor ≤ (rules.span candidate).offset) → ∀ segments,
      segmentsFrom repaired body.toUTF8 cursor (candidates.map (spanOf rules resolveTarget)) = segments →
      List.Forall₂ (Shows rules resolveTarget) candidates (segments.filter Segment.isMention) ∧
        (joined segments).utf8ByteSize ≤ (rest body cursor).utf8ByteSize ∧
        (joined segments = rest body cursor ↔ ¬ Marked (rest body cursor) ∧ ∀ candidate ∈ candidates,
          ¬ Marked (rest body ((rules.span candidate).offset + (rules.span candidate).len))) := by
  induction candidates with
  | nil =>
    rintro cursor hcursor - segments rfl
    have hjoined : joined (segmentsFrom (T := T) repaired body.toUTF8 cursor []) = unmarked (rest body cursor) :=
      joined_plain repaired (le_of_isCharBoundary hcursor) hcursor isCharBoundary_end
    have hnone : (segmentsFrom (T := T) repaired body.toUTF8 cursor []).filter Segment.isMention = [] := by
      unfold segmentsFrom
      split <;> rfl
    have hglue := @glue_iff (rest body cursor) _ _ (Nat.le_refl ("" : String).utf8ByteSize)
    rw [String.append_empty, String.append_empty] at hglue
    rw [List.map_nil, hnone, hjoined]
    exact ⟨.nil, unmarked_le, by simpa using hglue⟩
  | cons candidate candidates ih =>
    rintro cursor hcursor hlater segments hcut
    obtain ⟨hafter, hpairs⟩ := List.pairwise_cons.1 hdisjoint
    obtain ⟨name, hname, hread⟩ := hreads candidate List.mem_cons_self
    obtain ⟨hstart, hstop, htext⟩ := reads_iff.1 hread
    have hle := hlater candidate List.mem_cons_self
    obtain ⟨hbefore, -, -⟩ := slice repaired hle hcursor hstart
    obtain ⟨hrest, -, hlabel⟩ := slice repaired (Nat.le_add_right _ _) hstart hstop
    rw [htext] at hrest hlabel
    rw [unmarked_of_not not_marked_mention] at hlabel
    obtain ⟨later, hcutLater⟩ : ∃ later, segmentsFrom repaired body.toUTF8
        ((rules.span candidate).offset + (rules.span candidate).len)
        (candidates.map (spanOf rules resolveTarget)) = later := ⟨_, rfl⟩
    obtain ⟨hshows, hshorter, hlossless⟩ :=
      ih (fun c hc => hreads c (List.mem_cons_of_mem _ hc)) hpairs _ hstop hafter later hcutLater
    have hplain := joined_plain (T := T) repaired hle hcursor hstart
    have hsegments : segments = (if cursor < (rules.span candidate).offset then
        [.plain (decode repaired (body.toUTF8.extract cursor (rules.span candidate).offset))] else []) ++
          .mention ("@" ++ name) (resolveTarget (rules.decided candidate)) :: later := by
      have hahead : ¬ (spanOf rules resolveTarget candidate).offset < cursor := Nat.not_lt.2 hle
      rw [← hcut, ← hcutLater, List.map_cons, segmentsFrom, if_neg hahead, ← hlabel]
      rfl
    have hjoined : joined segments = unmarked (byteSlice body cursor (rules.span candidate).offset) ++
        ("@" ++ name ++ joined later) := by
      rw [hsegments, joined_append, joined_cons, hplain]
      rfl
    have hbare : Marked (rest body cursor) ↔ Marked (byteSlice body cursor (rules.span candidate).offset) := by
      rw [hbefore, hrest]
      rw [String.append_assoc]
      exact marked_append not_marked_mention
    refine ⟨?_, ?_, ?_⟩
    · have hmentions : segments.filter Segment.isMention =
          .mention ("@" ++ name) (resolveTarget (rules.decided candidate)) :: later.filter Segment.isMention := by
        rw [hsegments, List.filter_append]
        split <;> rfl
      rw [hmentions]
      exact .cons ⟨name, hname, rfl⟩ hshows
    · rw [hjoined, hbefore, hrest]
      simp only [String.utf8ByteSize_append]
      have := @unmarked_le (byteSlice body cursor (rules.span candidate).offset)
      omega
    · rw [hjoined, hbare, List.forall_mem_cons, ← hlossless]
      conv => lhs; rhs; rw [hbefore, hrest]
      rw [glue_iff (by simp only [String.utf8ByteSize_append]; omega), String.append_right_inj]

/-- The segments join to the body, and those that are mentions are the candidates', in order. -/
structure Lossless (rules : MentionRules C M D) (resolveTarget : D → T) (body : String) (candidates : List C)
    (segments : List (Segment T)) : Prop where
  joins : joined segments = body
  shows : List.Forall₂ (Shows rules resolveTarget) candidates (segments.filter Segment.isMention)

theorem shown_nonempty {candidates : List C} {segments : List (Segment T)}
    (h : List.Forall₂ (Shows rules resolveTarget) candidates segments) :
    ∀ segment ∈ segments, segment.text ≠ "" := by
  induction h with
  | nil => simp
  | cons hshows _ ih =>
    obtain ⟨name, -, rfl⟩ := hshows
    exact List.forall_mem_cons.2 ⟨by simp [Segment.text], ih⟩

theorem joined_nonempty (segments : List (Segment T)) :
    joined (segments.filter fun segment => segment.text != "") = joined segments := by
  induction segments with
  | nil => rfl
  | cons segment segments ih =>
    rw [List.filter_cons]
    split
    · rw [joined_cons, joined_cons, ih]
    · rename_i hempty
      have hnone : segment.text = "" := by simpa using hempty
      rw [joined_cons, hnone, ih, String.empty_append]

/-- An accepted list comes to the loop as it is: nothing is filtered out, and it is in order. -/
theorem spans_kept {candidates : List C} (h : Admissible rules body candidates) :
    sortBy (compareOn Span.offset) ((candidates.map (spanOf rules resolveTarget)).filter fun span =>
      0 < span.len && span.offset + span.len ≤ body.toUTF8.size) = candidates.map (spanOf rules resolveTarget) := by
  have hinside : ∀ span ∈ candidates.map (spanOf rules resolveTarget),
      (0 < span.len && span.offset + span.len ≤ body.toUTF8.size) = true := by
    intro span hspan
    obtain ⟨candidate, hmem, rfl⟩ := List.mem_map.1 hspan
    obtain ⟨name, -, before, after, -, -, hlen⟩ := h.reads candidate hmem
    have hat : 0 < (rules.span candidate).len := by
      rw [← hlen, String.utf8ByteSize_append]
      exact Nat.add_pos_left (by decide) _
    have hle : (rules.span candidate).offset + (rules.span candidate).len ≤ body.toUTF8.size :=
      (h.inside candidate hmem).1
    exact Bool.and_eq_true_iff.2 ⟨decide_eq_true hat, decide_eq_true hle⟩
  rw [List.filter_eq_self.2 hinside]
  refine List.Pairwise.insertionSort_eq (List.pairwise_map.2 (h.ordered.imp fun {candidate candidate'} hlt => ?_))
  exact Nat.isLE_compare.2 (Nat.le_of_lt hlt)

/-- What becomes of a list that is admissible under either rules. -/
theorem lossless_iff {candidates : List C} (h : Admissible rules body candidates) {span : D → MentionSpan}
    (hspan : ∀ candidate, span (rules.decided candidate) = rules.span candidate) :
    Lossless rules resolveTarget body candidates
        (buildDecidedMentionSegments repaired body (candidates.map rules.decided) span resolveTarget) ↔
      Bare body ((candidates.map rules.decided).map span) := by
  have hspans : (candidates.map rules.decided).map (fun mention =>
      Span.mk (span mention).offset (span mention).len (resolveTarget mention)) =
      candidates.map (spanOf rules resolveTarget) := by
    simp [spanOf, hspan]
  obtain ⟨segments, hcut⟩ : ∃ segments, segmentsFrom repaired body.toUTF8 0
      (candidates.map (spanOf rules resolveTarget)) = segments := ⟨_, rfl⟩
  have hstart : isCharBoundary body 0 := isCharBoundary_iff.2 ⟨"", body, String.empty_append.symm, rfl⟩
  obtain ⟨hshows, -, hlossless⟩ := segmentsFrom_spec repaired h.reads h.disjoint 0 hstart
    (fun _ _ => Nat.zero_le _) segments hcut
  have hbody : rest body 0 = body := by
    have hwhole := byteSlice_append "" body ""
    simpa [rest] using hwhole
  have hbuilt : buildDecidedMentionSegments repaired body (candidates.map rules.decided) span resolveTarget =
      segments.filter fun segment => segment.text != "" := by
    rw [buildDecidedMentionSegments, hspans, spans_kept h, hcut]
  have hmentions : (segments.filter fun segment => segment.text != "").filter Segment.isMention =
      segments.filter Segment.isMention := by
    rw [List.filter_filter]
    refine List.filter_congr fun segment hmem => ?_
    cases segment with
    | plain text => exact Bool.false_and _
    | mention text target =>
      have hshown := shown_nonempty hshows _ (List.mem_filter.2 ⟨hmem, rfl⟩)
      exact (Bool.true_and _).trans (bne_iff_ne.2 hshown)
  have hbare : Bare body ((candidates.map rules.decided).map span) ↔ joined segments = body := by
    rw [hbody] at hlossless
    rw [hlossless, Bare, List.forall_mem_cons, hbody]
    simp [hspan]
  rw [hbare, hbuilt]
  refine ⟨fun h => joined_nonempty segments ▸ h.joins, fun h => ⟨(joined_nonempty segments).trans h, ?_⟩⟩
  rw [hmentions]
  exact hshows

/-- The segments of a list that either decision accepted show each mention, in order, as `@` and the name it was
decided under, and join to the body exactly when U+FEFF stands neither at its start nor right behind a mention. -/
theorem segments_lossless_iff (body : { text : String // Holdable text }) :
    (∀ candidates mentions, decideProfileMentions body candidates = .ok mentions →
      ∀ resolveTarget : ProfileMention → T, Lossless profileRules resolveTarget body candidates
          (buildDecidedMentionSegments repaired body mentions ProfileMention.span resolveTarget) ↔
        Bare body (mentions.map ProfileMention.span)) ∧
    ∀ audience candidates mentions, decideSlotMentions body audience candidates = some (.ok mentions) →
      ∀ resolveTarget : SlotMention → T, Lossless (slotRules audience) resolveTarget body candidates
          (buildDecidedMentionSegments repaired body mentions SlotMention.span resolveTarget) ↔
        Bare body (mentions.map SlotMention.span) := by
  constructor
  · intro candidates mentions h resolveTarget
    obtain ⟨outcome, houtcome, spec⟩ := decideSpans_spec profileRules body.2 candidates
    obtain rfl := Option.some.inj ((decideSpans_profileRules body.2 candidates).symm.trans houtcome)
    obtain ⟨hadmissible, rfl⟩ := (spec mentions).1 h
    exact lossless_iff repaired hadmissible fun _ => rfl
  · intro audience candidates mentions h resolveTarget
    obtain ⟨outcome, houtcome, spec⟩ := decideSpans_spec (slotRules audience) body.2 candidates
    obtain rfl := Option.some.inj (houtcome.symm.trans h)
    obtain ⟨hadmissible, rfl⟩ := (spec mentions).1 rfl
    exact lossless_iff repaired hadmissible fun _ => rfl

theorem segments_lossless_iff_ana :
    Lossless profileRules id "— @ana" [⟨5, "ana", 4, 4⟩]
      (buildDecidedMentionSegments (fun _ => "") "— @ana" [⟨5, ⟨4, 4⟩⟩] ProfileMention.span id) :=
  have hdecided : decideProfileMentions "— @ana" [⟨5, "ana", 4, 4⟩] = .ok [⟨5, ⟨4, 4⟩⟩] := by decide +kernel
  ((segments_lossless_iff (fun _ => "") ⟨"— @ana", by decide +kernel⟩).1 _ _ hdecided _).2 (by decide +kernel)

/-- The mark behind the mention is gone from what is shown. -/
theorem joined_drops_mark :
    decideProfileMentions "@ana\uFEFF hi" [⟨5, "ana", 0, 4⟩] = .ok [⟨5, ⟨0, 4⟩⟩] ∧
      joined (buildDecidedMentionSegments (fun _ => "") "@ana\uFEFF hi" [⟨5, ⟨0, 4⟩⟩] ProfileMention.span id) =
        "@ana hi" := by
  decide +kernel

end Fmarch.Forum.Segments
