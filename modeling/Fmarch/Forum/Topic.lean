import Fmarch.Forum.Content

/-!
# Topic decisions (`forum::lib`, `forum::post`)

`decideTopic` and `decidePost` turn a command into the events it appends, against the state of a
topic and, for an edit or a retraction, the one post it addresses.
-/

namespace Fmarch.Forum

open Platform

/-! ## State -/

inductive PostingState where
  | opened | locked
  deriving DecidableEq

inductive TopicVisibility where
  | visible | hidden
  deriving DecidableEq

structure PostState where
  topicId : Uuid
  sourceSeq : Int
  authorProfileId : Option Uuid
  body : String
  mentions : List ProfileMention
  hasQuotations : Bool
  createdAt : Int
  revision : Int
  retracted : Bool
  deriving DecidableEq

structure TopicState where
  topicId : Uuid
  areaId : Uuid
  title : String
  pinned : Bool
  postingState : PostingState
  visibility : TopicVisibility
  version : Int

/-! ## Events -/

inductive TopicEvent where
  | created (areaId : Uuid) (title : String) (authorProfileId : Uuid)
  | postSubmitted (body : String) (authorProfileId : Uuid) (quotations : List Quotation)
      (mentions : List ProfileMention)
  | postEdited (sourceSeq : Int) (body : String) (mentions : List ProfileMention) (revision : Int)
  | postRetracted (sourceSeq : Int)
  | postingStateChanged (postingState : PostingState)
  | visibilityChanged (visibility : TopicVisibility)
  | renamed (title : String)
  | moved (areaId : Uuid)
  | pinnedChanged (pinned : Bool)

/-- `DecodedForumEvent`: a stored fact, of a topic or of an area. -/
inductive DecodedForumEvent where
  | areaCreated (slug title description : String)
  | topicCreated (areaId : Uuid) (title : String) (authorProfileId : Option Uuid)
  | postSubmitted (body : String) (authorProfileId : Option Uuid) (quotations : List Quotation)
      (mentions : List ProfileMention)
  | postEdited (sourceSeq : Int) (body : String) (mentions : List ProfileMention) (revision : Int)
  | postRetracted (sourceSeq : Int)
  | postingStateChanged (postingState : PostingState)
  | visibilityChanged (visibility : TopicVisibility)
  | topicRenamed (title : String)
  | topicMoved (areaId : Uuid)
  | pinnedChanged (pinned : Bool)

/-- `From<TopicEvent> for DecodedForumEvent`. -/
def TopicEvent.decoded : TopicEvent → DecodedForumEvent
  | .created areaId title author => .topicCreated areaId title (some author)
  | .postSubmitted body author quotations mentions =>
    .postSubmitted body (some author) quotations mentions
  | .postEdited sourceSeq body mentions revision => .postEdited sourceSeq body mentions revision
  | .postRetracted sourceSeq => .postRetracted sourceSeq
  | .postingStateChanged postingState => .postingStateChanged postingState
  | .visibilityChanged visibility => .visibilityChanged visibility
  | .renamed title => .topicRenamed title
  | .moved areaId => .topicMoved areaId
  | .pinnedChanged pinned => .pinnedChanged pinned

/-! ## Commands on a topic -/

inductive TopicCommand where
  | create (topicId areaId : Uuid) (title : TopicTitle) (openingBody : PostBody)
      (authorProfileId : Uuid)
  | submitPost (content : PostContent) (authorProfileId : Uuid)
  | setPostingState (postingState : PostingState)
  | setVisibility (visibility : TopicVisibility)
  | rename (title : TopicTitle)
  | move (areaId : Uuid)
  | setPinned (pinned : Bool)

def decideTopic : Option TopicState → TopicCommand → Except ForumReject (List TopicEvent)
  | none, .create _ areaId title openingBody author => do
    openingBody.requireContent false
    return [.created areaId title.text author, .postSubmitted openingBody.text author [] []]
  | some _, .create .. => .error .topicAlreadyExists
  | none, _ => .error .topicNotFound
  | some state, .submitPost content author =>
    if state.visibility ≠ .visible then .error .topicHidden
    else if state.postingState ≠ .opened then .error .topicLocked
    else do
      let (body, quotations, mentions) ← content.intoParts state.topicId
      return [.postSubmitted body author quotations mentions]
  | some state, .setPostingState postingState =>
    if state.postingState ≠ postingState then .ok [.postingStateChanged postingState]
    else .error .noStateChange
  | some state, .setVisibility visibility =>
    if state.visibility ≠ visibility then .ok [.visibilityChanged visibility]
    else .error .noStateChange
  | some state, .rename title =>
    if state.title ≠ title.text then .ok [.renamed title.text] else .error .noStateChange
  | some state, .move areaId =>
    if state.areaId ≠ areaId then .ok [.moved areaId] else .error .noStateChange
  | some state, .setPinned pinned =>
    if state.pinned ≠ pinned then .ok [.pinnedChanged pinned] else .error .noStateChange

/-! ## Commands on a post -/

def forumEditWindowSeconds : Int := 30 * 60

/-- `PostDecisionContext`: one loaded post of the topic. -/
structure PostDecisionContext where
  topic : TopicState
  post : PostState
  own : post.topicId = topic.topicId
  positioned : 1 ≤ post.sourceSeq

def PostDecisionContext.new (topic : TopicState) (post : PostState) :
    Except ForumReject PostDecisionContext :=
  if h : post.topicId = topic.topicId ∧ 1 ≤ post.sourceSeq then .ok ⟨topic, post, h.1, h.2⟩
  else .error .postNotFound

inductive PostCommand where
  | edit (body : PostBody) (mentions : List MentionCandidate) (authorProfileId : Uuid)
      (expectedRevision now : Int)
  | retract (authorProfileId : Uuid)

/-- The author a post command names. -/
def PostCommand.author : PostCommand → Uuid
  | .edit _ _ author _ _ | .retract author => author

/-- The `PostCommand::Edit` arm of `decide_post`. -/
def decideEdit (post : PostState) (body : PostBody) (mentions : List MentionCandidate)
    (expectedRevision now : Int) : Except ForumReject (List TopicEvent) :=
  if expectedRevision < 0 ∨ post.revision < 0 then .error .invalidRevision
  else if post.revision ≠ expectedRevision then .error .staleRevision
  else
    match checkedSub now post.createdAt with
    | none => .error .editWindowElapsed
    | some age =>
      if ¬ (0 ≤ age ∧ age ≤ forumEditWindowSeconds) then .error .editWindowElapsed
      else do
        body.requireContent post.hasQuotations
        let mentions ← (decideProfileMentions body.text mentions).mapError .contentReference
        if post.body = body.text ∧ post.mentions = mentions then .error .noStateChange
        else
          match checkedAdd post.revision 1 with
          | none => .error .invalidRevision
          | some revision => return [.postEdited post.sourceSeq body.text mentions revision]

def decidePost (context : PostDecisionContext) (command : PostCommand) :
    Except ForumReject (List TopicEvent) :=
  if context.topic.visibility ≠ .visible then .error .topicHidden
  else if context.topic.postingState ≠ .opened then .error .topicLocked
  else if context.post.authorProfileId ≠ some command.author then .error .notAuthor
  else if context.post.retracted then .error .postRetracted
  else
    match command with
    | .edit body mentions _ expectedRevision now =>
      decideEdit context.post body mentions expectedRevision now
    | .retract _ => .ok [.postRetracted context.post.sourceSeq]

end Fmarch.Forum
