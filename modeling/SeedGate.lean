import SeedGate.CommandLine.Options
import SeedGate.CommandLine.Run
import SeedGate.CommandLine.Usage
import SeedGate.Config.Load
import SeedGate.Config.Reading
import SeedGate.EnvFile
import SeedGate.Environment
import SeedGate.FileTree
import SeedGate.Log.Filter
import SeedGate.Main
import SeedGate.ProcessWide
import SeedGate.Proofs.Conduct
import SeedGate.Proofs.Deliveries
import SeedGate.Proofs.FaultKinds
import SeedGate.Proofs.HexOutput
import SeedGate.Proofs.JsonConfigs
import SeedGate.Proofs.OneStream
import SeedGate.Proofs.Priority
import SeedGate.Proofs.Reloading
import SeedGate.Proofs.TwoLayers
import SeedGate.Setting
import SeedGate.Setting.Reading
import SeedGate.Source.Handle
import SeedGate.Source.Replay
import SeedGate.Text.Alphanumeric
import SeedGate.Text.Similarity
import SeedGate.Text.Split
import SeedGate.Text.Utf8
import SeedGate.Toml.Document
