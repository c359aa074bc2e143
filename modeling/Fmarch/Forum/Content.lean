import Fmarch.Platform.Values

/-!
# Forum text and references (`content_reference`, `forum::content`)

The addresses a post carries (quotations and profile mentions), the decision on the mentions of a
body, and the normalized texts a command is built from. `PostContent` is decided upstream, against
the topic's thread; the write model only checks which topic it was decided for.
-/

namespace Fmarch.Forum

open Platform

/-! ## Rejections -/

inductive ContentReferenceReject where
  | invalidPostKind | invalidQuotationTarget | quotationNotFound | invalidQuotationExcerpt
  | tooManyQuotations | quotationChainTooDeep | duplicateQuotation | unknownMentionTarget
  | invalidMentionSpan | duplicateMention | duplicateSlotMention | tooManyMentions
  deriving DecidableEq

inductive ForumReject where
  | invalidTitle | bodyTooLong | emptyPost | invalidRevision
  | contentReference (reject : ContentReferenceReject)
  | topicAlreadyExists | topicNotFound | topicLocked | topicHidden | noStateChange
  | invalidPostingState | invalidVisibility | postNotFound | notAuthor | editWindowElapsed
  | postRetracted | staleRevision
  deriving DecidableEq

/-! ## References -/

inductive PostKind where
  | discussionPost | gamePost
  deriving DecidableEq

structure PostRef where
  kind : PostKind
  scopeId : Uuid
  sourceSeq : Int
  deriving DecidableEq

structure Quotation where
  target : PostRef
  excerpt : String
  deriving DecidableEq

/-- `MentionSpan`: a byte range of the body. -/
structure MentionSpan where
  offset : Nat
  len : Nat
  deriving DecidableEq

structure ProfileMention where
  profileId : Uuid
  span : MentionSpan
  deriving DecidableEq

structure MentionCandidate where
  profileId : Uuid
  handle : String
  offset : Nat
  len : Nat

def maxMentionsPerPost : Nat := 8

/-- The loop of `decide_profile_mentions`; `seen` are the profiles decided so far. -/
def decideMentionsFrom (body : String) (previousEnd : Nat) (seen : List Uuid) :
    List MentionCandidate → Except ContentReferenceReject (List ProfileMention)
  | [] => .ok []
  | candidate :: candidates =>
    let stop := saturatingAdd candidate.offset candidate.len
    if stop > body.utf8ByteSize || !isCharBoundary body candidate.offset ||
        !isCharBoundary body stop then .error .invalidMentionSpan
    else if byteSlice body candidate.offset stop ≠ "@" ++ candidate.handle then
      .error .invalidMentionSpan
    else if candidate.offset < previousEnd then .error .invalidMentionSpan
    else if seen.contains candidate.profileId then .error .duplicateMention
    else do
      let decided ← decideMentionsFrom body stop (seen ++ [candidate.profileId]) candidates
      return ⟨candidate.profileId, ⟨candidate.offset, candidate.len⟩⟩ :: decided

def decideProfileMentions (body : String) (candidates : List MentionCandidate) :
    Except ContentReferenceReject (List ProfileMention) :=
  if candidates.isEmpty then .ok []
  else if candidates.length > maxMentionsPerPost then .error .tooManyMentions
  else decideMentionsFrom body 0 [] candidates

/-! ## Texts -/

structure TopicTitle where
  text : String
  nonempty : text ≠ ""
  short : text.utf8ByteSize ≤ 180

def TopicTitle.new (value : String) : Except ForumReject TopicTitle :=
  if h : trim value ≠ "" ∧ (trim value).utf8ByteSize ≤ 180 then .ok ⟨trim value, h.1, h.2⟩
  else .error .invalidTitle

structure PostBody where
  text : String
  short : text.utf8ByteSize ≤ 10000

def PostBody.new (value : String) : Except ForumReject PostBody :=
  if h : (trim value).utf8ByteSize ≤ 10000 then .ok ⟨trim value, h⟩ else .error .bodyTooLong

def PostBody.requireContent (body : PostBody) (hasQuotations : Bool) : Except ForumReject Unit :=
  if body.text.isEmpty && !hasQuotations then .error .emptyPost else .ok ()

structure PostContent where
  topicId : Uuid
  body : PostBody
  quotations : List Quotation
  mentions : List ProfileMention

def PostContent.intoParts (content : PostContent) (topicId : Uuid) :
    Except ForumReject (String × List Quotation × List ProfileMention) :=
  if content.topicId ≠ topicId then .error (.contentReference .invalidQuotationTarget)
  else .ok (content.body.text, content.quotations, content.mentions)

end Fmarch.Forum
