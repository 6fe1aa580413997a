import SmoOnline.Library.Utf8
import SmoOnline.Library.Lists
import SmoOnline.Library.Runs
import SmoOnline.Shared.Header
import SmoOnline.Shared.Packets
import SmoOnline.Shared.Layouts
import SmoOnline.Shared.RoundTrip
import SmoOnline.Server.State
import SmoOnline.Shared.Reencode
import SmoOnline.Server.Handler
import SmoOnline.Server.Replay
import SmoOnline.Server.Machine
import SmoOnline.Server.Slack
import SmoOnline.Server.Quiet
import SmoOnline.Server.Steps
import SmoOnline.Server.Table
import SmoOnline.Server.Writes
import SmoOnline.Server.Seats
import SmoOnline.Server.Framing
import SmoOnline.Server.Changes
import SmoOnline.Server.Identity
import SmoOnline.Server.Admission
import SmoOnline.Server.Relay
import SmoOnline.Server.Roster
import SmoOnline.Server.Sends
import SmoOnline.Server.Keys
import SmoOnline.Server.Capacity
import SmoOnline.Server.BanList
import SmoOnline.Server.Bans
import SmoOnline.Server.Moons
import SmoOnline.Shared.Survival
import SmoOnline.Server.MoonFile
import SmoOnline.Library.Ledger
import SmoOnline.Server.MoonKeys
import SmoOnline.Server.MoonNotes
import SmoOnline.Server.MoonLedger
import SmoOnline.Server.Deliveries
import SmoOnline.Server.MoonSync
import SmoOnline.Server.NewSave
import SmoOnline.Server.Introductions
import SmoOnline.Library.Links
import SmoOnline.Mod.Client
import SmoOnline.Mod.Machine
import SmoOnline.Mod.Holders
import SmoOnline.Mod.Winners
import SmoOnline.Mod.Relay
import SmoOnline.Library.Chunks
import SmoOnline.Mod.Socket
import SmoOnline.Mod.Stranding
import SmoOnline.Mod.Suppression
import SmoOnline.Mod.Watched
import SmoOnline.Mod.Senders
import SmoOnline.Mod.SendQueue
import SmoOnline.Mod.Reconnect
import SmoOnline.Mod.Puppets
import SmoOnline.Mod.PuppetReuse
import SmoOnline.Mod.GameModes
import SmoOnline.Mod.HideAndSeek
import SmoOnline.Mod.Hiding
import SmoOnline.Server.Flags
import SmoOnline.Server.FlagLoop
import SmoOnline.Server.Reassembly
import SmoOnline.Server.Rounds
import SmoOnline.Server.Names
import SmoOnline.Server.Teams
import SmoOnline.Server.TagStart
import SmoOnline.Server.ModeLoops
import SmoOnline.Shared.TextFields
import SmoOnline.Shared.Stages
import SmoOnline.Server.CommandHandler
import SmoOnline.Server.Targets
import SmoOnline.Mod.CollectedShines
import SmoOnline.Server.Whereabouts
import SmoOnline.Mod.SocketClient
import SmoOnline.Mod.ReadThread
import SmoOnline.Library.Layout
import SmoOnline.Mod.PlayerAnims
import SmoOnline.Mod.PuppetMemory
import SmoOnline.Mod.PuppetArray
import SmoOnline.Mod.PuppetCount
import SmoOnline.Mod.PuppetSlots
import SmoOnline.Mod.PuppetHandover
import SmoOnline.Mod.PuppetBounds
import SmoOnline.Mod.GameModeTimer
import SmoOnline.Library.Search
import SmoOnline.Mod.Crc32
import SmoOnline.Mod.CaptureTypes
import SmoOnline.Mod.PuppetHolder
import SmoOnline.Mod.StageManager
import SmoOnline.Mod.HackModelHolder
import SmoOnline.Mod.Tagging
import SmoOnline.Server.DiscordBot
import SmoOnline.Library.Cuts
import SmoOnline.Mod.PartOf
import SmoOnline.Library.Arrival
import SmoOnline.Library.Shares
import SmoOnline.Mod.SmoothMove
import SmoOnline.Server.Commands
import SmoOnline.Server.Console
import SmoOnline.Server.Refusals
import SmoOnline.Server.Registry
import SmoOnline.Mod.MoonUpdate
import SmoOnline.Mod.MoonsSent
import SmoOnline.Mod.PuppetModels
import SmoOnline.Mod.CaptureSync
import SmoOnline.Library.Recent
import SmoOnline.Mod.FrameLoop
import SmoOnline.Build.GenPatch
import SmoOnline.Mod.ServerAddress
import SmoOnline.Library.Delimited
import SmoOnline.TestClient.Program
import SmoOnline.TestClient.Rebound
import SmoOnline.TestClient.Chain
