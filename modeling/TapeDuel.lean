import TapeDuel.Command.Shape
import TapeDuel.Config.Query
import TapeDuel.Engine.Walker
import TapeDuel.Ledger.Request
import TapeDuel.Main
import TapeDuel.Match.Schedule
import TapeDuel.Proofs.MirrorRounds
import TapeDuel.Proofs.StoredRounds
import TapeDuel.Proofs.WalkerSimulation
import TapeDuel.Proofs.Brackets
import TapeDuel.Proofs.Signs
import TapeDuel.Proofs.Dialect
import TapeDuel.Proofs.Rendering
import TapeDuel.Proofs.Unrolling
import TapeDuel.Proofs.UnrolledRounds
import TapeDuel.Proofs.Standings
import TapeDuel.Proofs.ProgramCodec
import TapeDuel.Proofs.Keeping
import TapeDuel.Proofs.KeptBots
import TapeDuel.Proofs.ReplayedGames
import TapeDuel.Proofs.Sessions
import TapeDuel.Proofs.Recordings
import TapeDuel.Proofs.Replays
import TapeDuel.Proofs.FightReplays
import TapeDuel.Proofs.Defaults
import TapeDuel.Proofs.PlayedGames
import TapeDuel.Proofs.HillReplays
import TapeDuel.Proofs.WrongBrackets
import TapeDuel.Proofs.Updates
import TapeDuel.Proofs.LedgerMaps
import TapeDuel.Proofs.CompletedTournaments
import TapeDuel.Proofs.LedgerStandings
import TapeDuel.Proofs.Carets
import TapeDuel.Proofs.ShortestSources
import TapeDuel.Proofs.OnePass
import TapeDuel.Proofs.Budgets
import TapeDuel.Proofs.ExchangedSigns
import TapeDuel.Proofs.EarlyDraws
import TapeDuel.Proofs.Interruptions
import TapeDuel.Proofs.FailingReports
import TapeDuel.Proofs.DamagedPrograms
import TapeDuel.Proofs.DepthFirst
import TapeDuel.Proofs.Tallies
import TapeDuel.Proofs.Conservation
import TapeDuel.Proofs.RoundSequences
import TapeDuel.Proofs.RoundRanges
import TapeDuel.Proofs.CommandLines
import TapeDuel.Proofs.UsageTexts
import TapeDuel.Proofs.DescribedSettings
import TapeDuel.Proofs.CounterStacks
import TapeDuel.Proofs.TurnlessLoops
import TapeDuel.Proofs.LoopPairs
import TapeDuel.Proofs.FailureTrees
