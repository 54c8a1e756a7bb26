import FactoryHub.Lib.Run
import FactoryHub.Comm.Frame
import FactoryHub.Comm.Crypto
import FactoryHub.Comm.Peer
import FactoryHub.Comm.RoundTrip
import FactoryHub.Comm.Stream
import FactoryHub.Comm.FrameLength
import FactoryHub.Llsf.Facts
import FactoryHub.Llsf.Orders
import FactoryHub.Llsf.Production
import FactoryHub.Llsf.ProductionSound
import FactoryHub.Llsf.Game
import FactoryHub.Llsf.GameScore
import FactoryHub.AtWork.Workshop
import FactoryHub.AtWork.Generate
import FactoryHub.AtWork.Benchmark
import FactoryHub.AtWork.Clock
import FactoryHub.AtWork.TimeLimit
import FactoryHub.AtWork.Refbox
import FactoryHub.Rockin.Benchmark
import FactoryHub.Rockin.Runs
import FactoryHub.Llsf.DeliveryGates
import FactoryHub.Llsf.FinishedPucks
import FactoryHub.Llsf.OrderAccounts
import FactoryHub.Rockin.BenchmarkInfo
import FactoryHub.Rockin.Feedback
import FactoryHub.Lib.Heap
import FactoryHub.Rockin.Orders
import FactoryHub.Rockin.ConveyorBelt
import FactoryHub.Rockin.TriggeredConveyorBelt
import FactoryHub.AtWork.Instances
import FactoryHub.Lib.Relational
import FactoryHub.AtWork.LiveInstances
import FactoryHub.AtWork.Broadcasts
import FactoryHub.Lib.Settle
import FactoryHub.Llsf.MachineSteps
import FactoryHub.Llsf.DownPeriods
import FactoryHub.Llsf.Lights
import FactoryHub.Llsf.LoadUpdates
import FactoryHub.Llsf.Parameterize
import FactoryHub.Lib.Outcome
import FactoryHub.PropertyClient.Client
import FactoryHub.PropertyClient.Cache
import FactoryHub.Lib.TwoWay
import FactoryHub.Comm.Addressing
import FactoryHub.Lib.Simulation
import FactoryHub.Lib.Fifo
import FactoryHub.Comm.Outbound
import FactoryHub.Lib.PrefixCode
import FactoryHub.Comm.Framing
import FactoryHub.Lib.Locks
import FactoryHub.Comm.LockOrder
import FactoryHub.Lib.Triple
import FactoryHub.Clips.Draws
import FactoryHub.AtWork.Routes
import FactoryHub.AtWork.Collisions
import FactoryHub.Clips.TimeArithmetic
import FactoryHub.Llsf.SimTime
import FactoryHub.Llsf.PrintedPoints
import FactoryHub.Lib.Reassert
import FactoryHub.Llsf.Robots
import FactoryHub.Llsf.SortedFacts
import FactoryHub.Llsf.NetworkClients
import FactoryHub.Lib.While
import FactoryHub.Llsf.MachineInit
import FactoryHub.Llsf.DeliverySchedule
import FactoryHub.Lib.Table
import FactoryHub.Llsf.MachineTable
import FactoryHub.Llsf.SameField
import FactoryHub.Lib.Checked
import FactoryHub.Clips.CheckedDraws
import FactoryHub.AtWork.CheckedGenerate
import FactoryHub.AtWork.Matching
import FactoryHub.Lib.Firsts
import FactoryHub.Llsf.Exploration
import FactoryHub.AtWork.TaskIds
import FactoryHub.AtWork.Robots
import FactoryHub.AtWork.ConveyorBelt
import FactoryHub.Lib.Stores
import FactoryHub.Llsf.SpsComm
import FactoryHub.MongoLog.Protobuf
import FactoryHub.Comm.MessageRegister
import FactoryHub.Rockin.TaskFeedback
import FactoryHub.Rockin.DeviceCommands
import FactoryHub.Rockin.QualityControlCamera
import FactoryHub.Lib.Handles
import FactoryHub.Comm.Messages
import FactoryHub.AtWork.CreateMsg
import FactoryHub.AtWork.MessageReaders
import FactoryHub.AtWork.HandleAccounts
import FactoryHub.Lib.Views
import FactoryHub.Llsf.TeamBroadcasts
import FactoryHub.Llsf.GameClock
import FactoryHub.Lib.SortedMap
import FactoryHub.Lib.KeyTree
import FactoryHub.Config.Node
import FactoryHub.Config.Settings
import FactoryHub.Config.Store
import FactoryHub.Config.Restart
import FactoryHub.Plugin.Manager
import FactoryHub.Plugin.Accounts
import FactoryHub.Threads.Manager
import FactoryHub.Threads.WholeLists
import FactoryHub.Plugin.Host
