import Alicia.AliciaTime
import Alicia.Authentication
import Alicia.Breeding.Attempts
import Alicia.Breeding.Cards
import Alicia.Breeding.Commands
import Alicia.Breeding.Fees
import Alicia.Breeding.Market
import Alicia.Breeding.Ownership
import Alicia.Breeding.Paddock
import Alicia.Breeding.Payouts
import Alicia.Breeding.Search
import Alicia.Breeding.Startup
import Alicia.Calendar
import Alicia.Chat.Punishments
import Alicia.Chatter.Delivery
import Alicia.Chatter.Encoding
import Alicia.Chatter.Server
import Alicia.Chrono
import Alicia.Collection.Cursor
import Alicia.Collection.Filing
import Alicia.Collection.Handover
import Alicia.Collection.Keyed
import Alicia.Collection.Maps
import Alicia.Collection.Paging
import Alicia.Collection.Rotation
import Alicia.Collection.SlidingWindow
import Alicia.Collection.Sorting
import Alicia.Command.Encoding
import Alicia.Command.Ending
import Alicia.Command.Exchange
import Alicia.Command.Magic
import Alicia.Command.Server
import Alicia.Data.CharacterReferences
import Alicia.Data.Definitions
import Alicia.Data.Director
import Alicia.Data.Lookup
import Alicia.Data.Reading
import Alicia.Data.RecordFiles
import Alicia.Data.ReferenceRepair
import Alicia.Data.Storage
import Alicia.Data.UserFiles
import Alicia.Data.UserLoading
import Alicia.Data.WriteBack
import Alicia.Genetics.Coat
import Alicia.Genetics.Lineage
import Alicia.Genetics.Looks
import Alicia.Genetics.Stats
import Alicia.Growth.ClassProgress
import Alicia.Growth.Maturity
import Alicia.Growth.Potential
import Alicia.Guild.Commands
import Alicia.Guild.Membership
import Alicia.Incubator.Boosts
import Alicia.Incubator.Hatching
import Alicia.Lobby.Authenticity
import Alicia.Lobby.Clients
import Alicia.Lobby.Login
import Alicia.Lobby.RandomRanch
import Alicia.Lobby.Sessions
import Alicia.Magic.Expiry
import Alicia.Magic.Fairness
import Alicia.Magic.Gauges
import Alicia.Magic.Instances
import Alicia.Magic.Oids
import Alicia.Magic.RandomItems
import Alicia.Magic.Ranks
import Alicia.Magic.Regeneration
import Alicia.Magic.Restarts
import Alicia.Magic.Stars
import Alicia.Magic.Targets
import Alicia.Magic.TeamSpurs
import Alicia.Matchmaking.Results
import Alicia.Matchmaking.System
import Alicia.Messenger.Contacts
import Alicia.Messenger.Friendship
import Alicia.Messenger.Letters
import Alicia.Messenger.Logins
import Alicia.Messenger.Mailboxes
import Alicia.Messenger.Paging
import Alicia.Messenger.PrivateChat
import Alicia.Messenger.Sessions
import Alicia.Naming.Registry
import Alicia.Naming.Retrieval
import Alicia.Naming.Uniqueness
import Alicia.Naming.Validity
import Alicia.Network.Connections
import Alicia.Network.Stream
import Alicia.Network.Writes
import Alicia.Number.Apportion
import Alicia.Number.Binary32
import Alicia.Number.Climb
import Alicia.Number.Draws
import Alicia.Number.Sampling
import Alicia.Number.Wrapping
import Alicia.Otp
import Alicia.Otp.History
import Alicia.Possession.BoxPayments
import Alicia.Possession.Conservation
import Alicia.Possession.Deliveries
import Alicia.Possession.Equipment
import Alicia.Possession.Gifts
import Alicia.Possession.ItemSystem
import Alicia.Possession.Payment
import Alicia.Possession.Purchases
import Alicia.Possession.Shop
import Alicia.Possession.Stacks
import Alicia.Possession.Takeouts
import Alicia.Protocol.CommonStructures
import Alicia.Protocol.RaceMessages
import Alicia.Protocol.RaceResult
import Alicia.Protocol.RanchMessages
import Alicia.Protocol.RoundTrip
import Alicia.Protocol.Stream
import Alicia.Quest.Commands
import Alicia.Quest.Progress
import Alicia.Quest.Rewards
import Alicia.Race.Authority
import Alicia.Race.Commands
import Alicia.Race.Handler
import Alicia.Race.Instance
import Alicia.Race.ItemSpawners
import Alicia.Race.MapEvents
import Alicia.Race.Mastery
import Alicia.Race.Membership
import Alicia.Race.Order
import Alicia.Race.Outcomes
import Alicia.Race.P2dIds
import Alicia.Race.Players
import Alicia.Race.ResultBoard
import Alicia.Race.Rewards
import Alicia.Race.Stages
import Alicia.Race.Teams
import Alicia.Race.Ticks
import Alicia.Ranch.Commands
import Alicia.Ranch.Entry
import Alicia.Ranch.Identity
import Alicia.Ranch.Membership
import Alicia.Ranch.Objects
import Alicia.Ranch.Recovery
import Alicia.Ranch.Renaming
import Alicia.Ranch.StatusPoints
import Alicia.Ranch.Tracker
import Alicia.Registry.Appearance
import Alicia.Registry.Breeding
import Alicia.Registry.Horses
import Alicia.Registry.Items
import Alicia.Registry.Quests
import Alicia.Registry.RandomHorse
import Alicia.Registry.SystemContent
import Alicia.Reward.Claims
import Alicia.Reward.System
import Alicia.Room
import Alicia.Room.Reservations
import Alicia.Scheduler
import Alicia.Scheduler.Fairness
import Alicia.ShopTime
import Alicia.Stream.Decoding
import Alicia.Stream.Framing
import Alicia.Stream.Serving
import Alicia.Text
import Alicia.Text.Regex
import Alicia.Transition.Agreement
import Alicia.Transition.Effect
import Alicia.Transition.Eventually
import Alicia.Transition.Run
