import Fmarch.Resolver.OwnOutput
import Fmarch.Eventstore.Append
import Fmarch.Eventstore.Keks
import Fmarch.Commands.Seats
import Fmarch.Commands.Receipts
import Fmarch.Commands.Leases
import Fmarch.Commands.Channels
import Fmarch.Caps.Resolve
import Fmarch.Projections.WatchRuns
import Fmarch.Commands.Participation
import Fmarch.Community.Runs
import Fmarch.Projections.PrivateResults
import Fmarch.Projections.RowsAgree
import Fmarch.Commands.RunningCount
import Fmarch.Commands.PromptReplay
import Fmarch.Client.StoreRuns
import Fmarch.Client.Votecount
import Fmarch.Client.HostConsole
import Fmarch.Projections.SearchDocuments
import Fmarch.Projections.RebuildFence
import Fmarch.Api.LiveSession
import Fmarch.Client.LiveTransport
import Fmarch.Media.Uploads
import Fmarch.Api.MediaQuota
import Fmarch.Resolver.TriggerRounds
import Fmarch.Identity.ExternalIdentities
import Fmarch.Commands.PersonaNames
import Fmarch.Commands.EffectPlans
import Fmarch.Identity.SubjectErasure
import Fmarch.Resolver.LoverClosure
import Fmarch.Resolver.FinalWin
import Fmarch.Resolver.Hammer
import Fmarch.Resolver.RevealModes
import Fmarch.Forum.History
import Fmarch.Resolver.FactionVote
import Fmarch.Domain.AbilityOrder
import Fmarch.Resolver.Backups
import Fmarch.Forum.Codec
import Fmarch.Resolver.StoredEvents
import Fmarch.Platform.Polling
import Fmarch.Platform.AutoSelection
import Fmarch.Forum.Segments
import Fmarch.Forum.Quotations
