import Fmarch.Forum.Content
import Fmarch.Lib.Fallible
import Fmarch.Lib.LongestPath
import Mathlib.Data.List.Infix
import Mathlib.Data.List.Nodup

/-!
# The decision on quotations (`content_reference`)

`decide_quotations` reads the quotations a new post would carry against the posts of its thread. A thread
grows by posts whose quotations it accepted (`Grown`); bodies and visibility change under it, the quotations
of a post do not.

**`grown_quotations`**: the quotation graph of a grown thread is acyclic, `quotation_chain_depth` is the
length of the longest chain below a post and at most the maximum, and a list is accepted exactly when it is
`Acceptable`. The cycle guard of the walk never decides: `depthFrom_isLongest`.
-/

namespace Fmarch.Forum

open Platform LongestPath

/-! ## Threads -/

def PostRef.sameThreadAs (target thread : PostRef) : Bool :=
  target.kind == thread.kind && target.scopeId == thread.scopeId

structure QuotationPostState where
  sourceSeq : Int
  body : String
  visible : Bool
  outgoing : List PostRef

structure QuotationThreadState where
  thread : PostRef
  posts : List QuotationPostState

def maxQuotationsPerPost : Nat := 8

def maxQuotationChainDepth : Nat := 8

def maxQuotationExcerptBytes : Nat := 1000

namespace QuotationThreadState

/-- The posts a walk has not entered. -/
def unvisited (thread : QuotationThreadState) (visiting : List Int) : List QuotationPostState :=
  thread.posts.filter fun post => !visiting.contains post.sourceSeq

/-- A walk that enters a post has fewer left. -/
theorem unvisited_lt {thread : QuotationThreadState} {visiting : List Int} {sourceSeq : Int}
    {post : QuotationPostState} (hfound : thread.posts.find? (·.sourceSeq == sourceSeq) = some post)
    (hfresh : ¬ visiting.contains sourceSeq) :
    (thread.unvisited (sourceSeq :: visiting)).length < (thread.unvisited visiting).length := by
  have hseq : post.sourceSeq = sourceSeq := by simpa using List.find?_some hfound
  have hentered : thread.unvisited (sourceSeq :: visiting) =
      (thread.unvisited visiting).filter (·.sourceSeq ≠ sourceSeq) := by
    rw [unvisited, unvisited, List.filter_filter]
    refine List.filter_congr fun post _ => ?_
    by_cases hpost : post.sourceSeq = sourceSeq <;> simp [hpost]
  rw [hentered, List.length_filter_lt_length_iff_exists]
  refine ⟨post, List.mem_filter.2 ⟨List.mem_of_find?_eq_some hfound, ?_⟩, by simp [hseq]⟩
  rw [hseq]
  simpa using hfresh

/-- `depth_from`: `visiting` are the posts the walk is below. -/
def depthFrom (thread : QuotationThreadState) (sourceSeq : Int) (visiting : List Int) : Nat :=
  if visiting.contains sourceSeq then 0
  else
    match hfound : thread.posts.find? (·.sourceSeq == sourceSeq) with
    | none => 0
    | some post =>
      if post.outgoing.isEmpty then 0
      else
        1 + (((post.outgoing.filter (·.sameThreadAs thread.thread)).map fun target =>
          depthFrom thread target.sourceSeq (sourceSeq :: visiting)).max?).getD 0
termination_by (thread.unvisited visiting).length
decreasing_by exact unvisited_lt hfound ‹_›

def quotationChainDepth (thread : QuotationThreadState) (sourceSeq : Int) : Nat :=
  thread.depthFrom sourceSeq []

end QuotationThreadState

/-! ## The decision -/

def validateQuotationExcerpt (excerpt body : String) : Except ContentReferenceReject Unit :=
  if excerpt = "" ∨ excerpt.utf8ByteSize > maxQuotationExcerptBytes ∨ excerpt.toList.all isWhitespace ∨
      ¬ excerpt.toList <:+: body.toList then .error .invalidQuotationExcerpt
  else .ok ()

/-- The loop of `decide_quotations`; `seen` are the targets decided so far. -/
def decideQuotationsFrom (thread : QuotationThreadState) (seen : List PostRef) :
    List Quotation → Except ContentReferenceReject (List Quotation)
  | [] => .ok []
  | quotation :: quotations =>
    if !quotation.target.sameThreadAs thread.thread then .error .invalidQuotationTarget
    else if seen.contains quotation.target then .error .duplicateQuotation
    else
      match thread.posts.find? fun post =>
          post.sourceSeq == quotation.target.sourceSeq && post.visible with
      | none => .error .quotationNotFound
      | some post => do
        validateQuotationExcerpt quotation.excerpt post.body
        if thread.quotationChainDepth quotation.target.sourceSeq + 1 > maxQuotationChainDepth then
          .error .quotationChainTooDeep
        else do
          let decided ← decideQuotationsFrom thread (seen ++ [quotation.target]) quotations
          return quotation :: decided

def decideQuotations (thread : QuotationThreadState) (quotations : List Quotation) :
    Except ContentReferenceReject (List Quotation) :=
  if quotations.isEmpty then .ok []
  else if quotations.length > maxQuotationsPerPost then .error .tooManyQuotations
  else decideQuotationsFrom thread [] quotations

/-! ## The thread as a graph -/

/-- The posts with the quotations they carry. -/
def graph (posts : List QuotationPostState) : List (Int × List PostRef) :=
  posts.map fun post => (post.sourceSeq, post.outgoing)

/-- The post at `source` quotes the one at `target`. -/
def Quotes (thread : PostRef) (graph : List (Int × List PostRef)) (source target : Int) : Prop :=
  ∃ entry ∈ graph, entry.1 = source ∧ ∃ ref ∈ entry.2, ref.sameThreadAs thread ∧ ref.sourceSeq = target

/-- The threads that posts with accepted quotations build. A new post is at a sequence number of its own;
between posts a body may be edited, and a post hidden, shown or retracted. -/
inductive Grown (thread : PostRef) : List QuotationPostState → Prop where
  | empty : Grown thread []
  | posted {posts : List QuotationPostState} {quotations decided : List Quotation} (sourceSeq : Int)
      (body : String) (visible : Bool) (grown : Grown thread posts)
      (fresh : sourceSeq ∉ posts.map (·.sourceSeq))
      (accepted : decideQuotations ⟨thread, posts⟩ quotations = .ok decided) :
      Grown thread (posts ++ [⟨sourceSeq, body, visible, decided.map (·.target)⟩])
  | changed {posts posts' : List QuotationPostState} (grown : Grown thread posts)
      (same : graph posts' = graph posts) : Grown thread posts'

/-- The place of a post among the others. -/
abbrev place (graph : List (Int × List PostRef)) (sourceSeq : Int) : Nat :=
  (graph.map Prod.fst).idxOf sourceSeq

/-- What every grown thread is: posts quote earlier posts of their thread, each once, in short chains. -/
structure WellQuoted (thread : PostRef) (graph : List (Int × List PostRef)) : Prop where
  unique : (graph.map Prod.fst).Nodup
  earlier : ∀ entry ∈ graph, ∀ ref ∈ entry.2, ref.sameThreadAs thread ∧
    ref.sourceSeq ∈ graph.map Prod.fst ∧ place graph ref.sourceSeq < place graph entry.1
  distinct : ∀ entry ∈ graph, entry.2.Nodup
  shallow : ∀ entry ∈ graph, ∀ n, PathFrom (Quotes thread graph) entry.1 n → n ≤ maxQuotationChainDepth

section
variable {thread : QuotationThreadState} {entries : List (Int × List PostRef)} {ref : PostRef}

theorem WellQuoted.lowers (h : WellQuoted ref entries) {source target : Int}
    (hquotes : Quotes ref entries source target) : place entries target < place entries source := by
  obtain ⟨entry, hentry, rfl, target, htarget, -, rfl⟩ := hquotes
  exact (h.earlier entry hentry target htarget).2.2

/-- The walk finds the longest chain: the posts it is below are all later, so its guard never decides. -/
theorem WellQuoted.depthFrom_isLongest (h : WellQuoted thread.thread (graph thread.posts)) (k : Nat) :
    ∀ (sourceSeq : Int) (visiting : List Int), place (graph thread.posts) sourceSeq = k →
      (∀ above ∈ visiting, place (graph thread.posts) sourceSeq < place (graph thread.posts) above) →
      IsLongest (Quotes thread.thread (graph thread.posts)) sourceSeq
        (thread.depthFrom sourceSeq visiting) := by
  induction k using Nat.strong_induction_on with
  | _ k ih =>
    intro sourceSeq visiting hplace habove
    have hfresh : ¬ visiting.contains sourceSeq := by
      intro hin
      exact lt_irrefl _ (habove sourceSeq (by simpa using hin))
    rw [QuotationThreadState.depthFrom, if_neg hfresh]
    split
    case h_1 hnone =>
      refine isGreatest_zero fun target hquotes => ?_
      obtain ⟨entry, hentry, rfl, -⟩ := hquotes
      obtain ⟨post, hpost, rfl⟩ := List.mem_map.1 hentry
      simpa using List.find?_eq_none.1 hnone post hpost
    case h_2 post hfound =>
      have hseq : post.sourceSeq = sourceSeq := by simpa using List.find?_some hfound
      have hentry : (sourceSeq, post.outgoing) ∈ graph thread.posts :=
        List.mem_map.2 ⟨post, List.mem_of_find?_eq_some hfound, by rw [hseq]⟩
      have hquotes : ∀ target, Quotes thread.thread (graph thread.posts) sourceSeq target ↔
          target ∈ (post.outgoing.filter (·.sameThreadAs thread.thread)).map (·.sourceSeq) := by
        intro target
        rw [List.mem_map]
        constructor
        · rintro ⟨entry, hmem, hsource, ref, href, hsame, rfl⟩
          obtain rfl := List.inj_on_of_nodup_map h.unique hmem hentry hsource
          exact ⟨ref, List.mem_filter.2 ⟨href, hsame⟩, rfl⟩
        · rintro ⟨ref, href, rfl⟩
          exact ⟨_, hentry, rfl, ref, (List.mem_filter.1 href).1, (List.mem_filter.1 href).2, rfl⟩
      by_cases hempty : post.outgoing = []
      · rw [if_pos (by simp [hempty])]
        exact isGreatest_zero fun target => by rw [hquotes, hempty]; simp
      · rw [if_neg (by simpa using hempty)]
        have hall : post.outgoing.filter (·.sameThreadAs thread.thread) = post.outgoing :=
          List.filter_eq_self.2 fun ref href => (h.earlier _ hentry ref href).1
        have hdepth := isGreatest_succ (fun target => thread.depthFrom target (sourceSeq :: visiting))
          hquotes (by simpa [hall] using hempty) fun target htarget => ?_
        · rwa [List.map_map] at hdepth
        · have hlower := h.lowers ((hquotes target).2 htarget)
          refine ih _ (hplace ▸ hlower) target _ rfl fun above hin => ?_
          rcases List.mem_cons.1 hin with rfl | hin
          · exact hlower
          · exact hlower.trans (habove above hin)

theorem WellQuoted.isLongest (h : WellQuoted thread.thread (graph thread.posts)) (sourceSeq : Int) :
    IsLongest (Quotes thread.thread (graph thread.posts)) sourceSeq (thread.quotationChainDepth sourceSeq) :=
  h.depthFrom_isLongest _ sourceSeq [] rfl nofun

/-! ## What is accepted -/

/-- The body holds the excerpt. -/
def Holds (body excerpt : String) : Prop := excerpt.toList <:+: body.toList

/-- The quotations of a list are of visible posts of the thread, each of another post, with an excerpt of
its body, and no chain below one is too long to be quoted. -/
structure Quotable (thread : QuotationThreadState) (quotations : List Quotation) : Prop where
  inThread : ∀ quotation ∈ quotations, quotation.target.sameThreadAs thread.thread
  distinct : (quotations.map (·.target)).Nodup
  excerpted : ∀ quotation ∈ quotations, ∃ post ∈ thread.posts,
    post.sourceSeq = quotation.target.sourceSeq ∧ post.visible ∧ Holds post.body quotation.excerpt
  shallow : ∀ quotation ∈ quotations, ∀ n,
    PathFrom (Quotes thread.thread (graph thread.posts)) quotation.target.sourceSeq n →
      n + 1 ≤ maxQuotationChainDepth

/-- There are few of them, and each excerpt is short and not blank. -/
structure Acceptable (thread : QuotationThreadState) (quotations : List Quotation) : Prop
    extends Quotable thread quotations where
  few : quotations.length ≤ maxQuotationsPerPost
  legible : ∀ quotation ∈ quotations, quotation.excerpt ≠ "" ∧
    quotation.excerpt.utf8ByteSize ≤ maxQuotationExcerptBytes ∧ ¬ quotation.excerpt.toList.all isWhitespace

theorem validateQuotationExcerpt_eq_ok {excerpt body : String} {done : Unit} :
    validateQuotationExcerpt excerpt body = .ok done ↔ excerpt ≠ "" ∧
      excerpt.utf8ByteSize ≤ maxQuotationExcerptBytes ∧ ¬ excerpt.toList.all isWhitespace ∧
        Holds body excerpt := by
  rw [validateQuotationExcerpt, Fallible.ite_error_eq_ok]
  simp only [not_or, not_lt, not_not, Holds]
  tauto

/-- One quotation passes the checks of the loop, apart from those on the targets before it. -/
def Passes (thread : QuotationThreadState) (quotation : Quotation) : Prop :=
  quotation.target.sameThreadAs thread.thread ∧
  (∃ post, (thread.posts.find? fun post =>
      post.sourceSeq == quotation.target.sourceSeq && post.visible) = some post ∧
    validateQuotationExcerpt quotation.excerpt post.body = .ok ()) ∧
  thread.quotationChainDepth quotation.target.sourceSeq + 1 ≤ maxQuotationChainDepth

theorem decideQuotationsFrom_eq_ok {quotations : List Quotation} :
    ∀ {seen : List PostRef} {decided : List Quotation},
      decideQuotationsFrom thread seen quotations = .ok decided ↔ decided = quotations ∧
        (∀ quotation ∈ quotations, Passes thread quotation ∧ quotation.target ∉ seen) ∧
        (quotations.map (·.target)).Nodup := by
  induction quotations with
  | nil =>
    intro seen decided
    rw [decideQuotationsFrom, Except.ok.injEq, eq_comm]
    simp
  | cons quotation quotations ih =>
    intro seen decided
    rw [decideQuotationsFrom, Fallible.ite_error_eq_ok, Fallible.ite_error_eq_ok, List.forall_mem_cons,
      List.map_cons, List.nodup_cons, Passes]
    simp only [Bool.not_eq_true, Bool.not_eq_false', List.contains_iff_mem]
    cases hfound : thread.posts.find? fun post =>
        post.sourceSeq == quotation.target.sourceSeq && post.visible with
    | none => simp
    | some post =>
      simp only [Fallible.bind_eq_ok, Fallible.ite_error_eq_ok, ih, not_lt, Option.some.injEq,
        exists_eq_left', pure, Except.pure, Except.ok.injEq, List.mem_append, List.mem_singleton]
      constructor
      · rintro ⟨hsame, hseen, ⟨⟩, hvalid, hdepth, rest, ⟨rfl, hall, hnodup⟩, rfl⟩
        refine ⟨rfl, ⟨⟨⟨hsame, hvalid, hdepth⟩, hseen⟩, fun q hq => ⟨(hall q hq).1, ?_⟩⟩, ?_, hnodup⟩
        · exact fun hin => (hall q hq).2 (.inl hin)
        · intro hmem
          obtain ⟨q, hq, htarget⟩ := List.mem_map.1 hmem
          exact (hall q hq).2 (.inr htarget)
      · rintro ⟨rfl, ⟨⟨⟨hsame, hvalid, hdepth⟩, hseen⟩, hall⟩, hfresh, hnodup⟩
        refine ⟨hsame, hseen, (), hvalid, hdepth, _, ⟨rfl, fun q hq => ⟨(hall q hq).1, ?_⟩, hnodup⟩, rfl⟩
        rintro (hin | htarget)
        · exact (hall q hq).2 hin
        · exact hfresh (List.mem_map.2 ⟨q, hq, htarget⟩)

/-- On a thread of quotations as they are built, the decision accepts the acceptable lists, unchanged. -/
theorem WellQuoted.decideQuotations_eq_ok (h : WellQuoted thread.thread (graph thread.posts))
    {quotations decided : List Quotation} : decideQuotations thread quotations = .ok decided ↔
      Acceptable thread quotations ∧ decided = quotations := by
  have hnodup : (thread.posts.map (·.sourceSeq)).Nodup := by
    have hunique := h.unique
    rwa [graph, List.map_map] at hunique
  have hpasses : ∀ quotation, Passes thread quotation ↔ quotation.target.sameThreadAs thread.thread ∧
      (quotation.excerpt ≠ "" ∧ quotation.excerpt.utf8ByteSize ≤ maxQuotationExcerptBytes ∧
        ¬ quotation.excerpt.toList.all isWhitespace) ∧
      (∃ post ∈ thread.posts, post.sourceSeq = quotation.target.sourceSeq ∧ post.visible ∧
        Holds post.body quotation.excerpt) ∧
      ∀ n, PathFrom (Quotes thread.thread (graph thread.posts)) quotation.target.sourceSeq n →
        n + 1 ≤ maxQuotationChainDepth := by
    intro quotation
    obtain ⟨hpath, hlongest⟩ := h.isLongest quotation.target.sourceSeq
    have hdepth : thread.quotationChainDepth quotation.target.sourceSeq + 1 ≤ maxQuotationChainDepth ↔
        ∀ n, PathFrom (Quotes thread.thread (graph thread.posts)) quotation.target.sourceSeq n →
          n + 1 ≤ maxQuotationChainDepth :=
      ⟨fun hle n hn => (Nat.succ_le_succ (hlongest hn)).trans hle, fun hall => hall _ hpath⟩
    simp only [Passes, hdepth, validateQuotationExcerpt_eq_ok]
    constructor
    · rintro ⟨hsame, ⟨post, hfound, hempty, hshort, hblank, hholds⟩, hshallow⟩
      have hpost := List.find?_some hfound
      rw [Bool.and_eq_true, beq_iff_eq] at hpost
      exact ⟨hsame, ⟨hempty, hshort, hblank⟩,
        ⟨post, List.mem_of_find?_eq_some hfound, hpost.1, hpost.2, hholds⟩, hshallow⟩
    · rintro ⟨hsame, ⟨hempty, hshort, hblank⟩, ⟨post, hpost, hseq, hvisible, hholds⟩, hshallow⟩
      cases hfound : thread.posts.find? fun post =>
          post.sourceSeq == quotation.target.sourceSeq && post.visible with
      | none => simpa [hseq, hvisible] using List.find?_eq_none.1 hfound post hpost
      | some found =>
        have hsome := List.find?_some hfound
        rw [Bool.and_eq_true, beq_iff_eq] at hsome
        obtain rfl :=
          List.inj_on_of_nodup_map hnodup (List.mem_of_find?_eq_some hfound) hpost (hsome.1.trans hseq.symm)
        exact ⟨hsame, ⟨found, rfl, hempty, hshort, hblank, hholds⟩, hshallow⟩
  have hacceptable : Acceptable thread quotations ↔ quotations.length ≤ maxQuotationsPerPost ∧
      (∀ quotation ∈ quotations, Passes thread quotation) ∧ (quotations.map (·.target)).Nodup := by
    simp only [hpasses]
    exact ⟨fun h => ⟨h.few, fun q hq => ⟨h.inThread q hq, h.legible q hq, h.excerpted q hq, h.shallow q hq⟩,
        h.distinct⟩,
      fun ⟨few, hall, distinct⟩ => ⟨⟨fun q hq => (hall q hq).1, distinct, fun q hq => (hall q hq).2.2.1,
        fun q hq => (hall q hq).2.2.2⟩, few, fun q hq => (hall q hq).2.1⟩⟩
  rw [decideQuotations, hacceptable]
  by_cases hempty : quotations = []
  · subst hempty
    simp [eq_comm (a := ([] : List Quotation))]
  · rw [if_neg (by simpa using hempty), Fallible.ite_error_eq_ok, decideQuotationsFrom_eq_ok, not_lt]
    simp only [List.not_mem_nil, not_false_eq_true, and_true]
    tauto

/-! ## How threads grow -/

/-- Of the posts there before a new one, the chains stay the same. -/
theorem pathFrom_append {thread : PostRef} (h : WellQuoted thread entries) {added : Int × List PostRef}
    (hfresh : added.1 ∉ entries.map Prod.fst) {source : Int} {n : Nat}
    (hpath : PathFrom (Quotes thread (entries ++ [added])) source n) :
    source ∈ entries.map Prod.fst → PathFrom (Quotes thread entries) source n := by
  induction hpath with
  | here source => exact fun _ => .here source
  | step hquotes _ ih =>
    intro hsource
    obtain ⟨entry, hentry, rfl, ref, href, hsame, rfl⟩ := hquotes
    rcases List.mem_append.1 hentry with hentry | hadded
    · exact PathFrom.step ⟨entry, hentry, rfl, ref, href, hsame, rfl⟩
        (ih (h.earlier entry hentry ref href).2.1)
    · obtain rfl := List.mem_singleton.1 hadded
      exact absurd hsource hfresh

/-- A post whose quotations are acceptable leaves the thread as it should be. -/
theorem WellQuoted.posted (h : WellQuoted thread.thread (graph thread.posts)) {quotations : List Quotation}
    {sourceSeq : Int} (hfresh : sourceSeq ∉ thread.posts.map (·.sourceSeq))
    (acceptable : Acceptable thread quotations) :
    WellQuoted thread.thread (graph thread.posts ++ [(sourceSeq, quotations.map (·.target))]) := by
  have hmap : (graph thread.posts).map Prod.fst = thread.posts.map (·.sourceSeq) := List.map_map
  rw [← hmap] at hfresh
  have hold : ∀ ref ∈ quotations.map (·.target), ref.sameThreadAs thread.thread ∧
      ref.sourceSeq ∈ (graph thread.posts).map Prod.fst := by
    intro ref href
    obtain ⟨quotation, hquotation, rfl⟩ := List.mem_map.1 href
    obtain ⟨post, hpost, hseq, -⟩ := acceptable.excerpted quotation hquotation
    exact ⟨acceptable.inThread quotation hquotation, hmap ▸ hseq ▸ List.mem_map_of_mem hpost⟩
  refine ⟨?_, ?_, ?_, ?_⟩
  · rw [List.map_append, List.nodup_append]
    exact ⟨h.unique, List.nodup_singleton _, fun seq hseq new hnew => by
      have hadded : new = sourceSeq := List.mem_singleton.1 hnew
      rintro rfl
      exact hfresh (hadded ▸ hseq)⟩
  · intro entry hentry ref href
    rw [place, place, List.map_append]
    rcases List.mem_append.1 hentry with hentry | hadded
    · obtain ⟨hsame, hmem, hlower⟩ := h.earlier entry hentry ref href
      rw [List.idxOf_append_of_mem hmem, List.idxOf_append_of_mem (List.mem_map_of_mem hentry)]
      exact ⟨hsame, List.mem_append_left _ hmem, hlower⟩
    · obtain rfl := List.mem_singleton.1 hadded
      obtain ⟨hsame, hmem⟩ := hold ref href
      rw [List.idxOf_append_of_mem hmem, List.idxOf_append_of_notMem hfresh]
      exact ⟨hsame, List.mem_append_left _ hmem, (List.idxOf_lt_length_of_mem hmem).trans_le (Nat.le_add_right _ _)⟩
  · intro entry hentry
    rcases List.mem_append.1 hentry with hentry | hadded
    · exact h.distinct entry hentry
    · exact List.mem_singleton.1 hadded ▸ acceptable.distinct
  · intro entry hentry n hpath
    rcases List.mem_append.1 hentry with hentry | hadded
    · exact h.shallow entry hentry n (pathFrom_append h hfresh hpath (List.mem_map_of_mem hentry))
    · obtain rfl := List.mem_singleton.1 hadded
      cases hpath with
      | here => exact Nat.zero_le _
      | step hquotes hpath =>
        obtain ⟨entry, hentry, hsource, ref, href, -, rfl⟩ := hquotes
        rcases List.mem_append.1 hentry with hentry | hadded
        · exact absurd (List.mem_map.2 ⟨entry, hentry, hsource⟩) hfresh
        · obtain rfl := List.mem_singleton.1 hadded
          obtain ⟨quotation, hquotation, rfl⟩ := List.mem_map.1 href
          exact acceptable.shallow quotation hquotation _ (pathFrom_append h hfresh hpath (hold _ href).2)

/-- Every thread that is built is as it should be. -/
theorem Grown.wellQuoted {ref : PostRef} {posts : List QuotationPostState} (grown : Grown ref posts) :
    WellQuoted ref (graph posts) := by
  induction grown with
  | empty => exact ⟨.nil, by simp [graph], by simp [graph], by simp [graph]⟩
  | @posted posts quotations decided sourceSeq body visible grown fresh accepted ih =>
    let thread : QuotationThreadState := ⟨ref, posts⟩
    have hwell : WellQuoted thread.thread (graph thread.posts) := ih
    obtain ⟨acceptable, rfl⟩ := hwell.decideQuotations_eq_ok.1 accepted
    rw [graph, List.map_append]
    exact hwell.posted fresh acceptable
  | changed grown same ih => rwa [same]

end

/-- A thread with one post. -/
def opening (ref : PostRef) : QuotationThreadState := ⟨ref, [⟨ref.sourceSeq, "day one", true, []⟩]⟩

theorem grown_opening (ref : PostRef) : Grown ref (opening ref).posts :=
  have accepted : decideQuotations ⟨ref, []⟩ [] = .ok [] := rfl
  Grown.posted ref.sourceSeq "day one" true .empty List.not_mem_nil accepted

end Fmarch.Forum
