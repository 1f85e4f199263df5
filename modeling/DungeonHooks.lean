import DungeonHooks.Command.Tree
import DungeonHooks.Effect.Rule
import DungeonHooks.Format.Hook
import DungeonHooks.Host.Recorder
import DungeonHooks.Host.Scripted
import DungeonHooks.Main
import DungeonHooks.Menu.Action
import DungeonHooks.Proofs.Checked.Run
import DungeonHooks.Proofs.Checked.WholeNames
import DungeonHooks.Proofs.Dispatch.Listing
import DungeonHooks.Proofs.Menu.Isolation
import DungeonHooks.Proofs.Menu.Lifecycle
import DungeonHooks.Proofs.Menu.Recruit.Once
import DungeonHooks.Proofs.Menu.Recruit.Owned
import DungeonHooks.Proofs.Replay.BeastBoost
import DungeonHooks.Proofs.Replay.Input.Conserved
import DungeonHooks.Proofs.Replay.Recruit.Completed
import DungeonHooks.Proofs.Replay.Recruit.Grows
import DungeonHooks.Proofs.Replay.Warnings
import DungeonHooks.Proofs.Replay.Windows
import DungeonHooks.Proofs.Replay.Rejected
import DungeonHooks.Proofs.Replay.Invisible
import DungeonHooks.Proofs.Replay.NativeRun
import DungeonHooks.Proofs.Replay.Opcodes
import DungeonHooks.Proofs.Replay.Unheard
import DungeonHooks.Proofs.Menu.Turns
import DungeonHooks.Proofs.Replay.PartnerName
import DungeonHooks.Proofs.Menu.Password
import DungeonHooks.Proofs.Script.WriteBack
import DungeonHooks.Proofs.Menu.Recruit.Portrait
import DungeonHooks.Proofs.Effect.HighestStat
import DungeonHooks.Proofs.Replay.QueuedDraws
import DungeonHooks.Proofs.Engine.KeyboardHooks
import DungeonHooks.Proofs.Replay.Operands
