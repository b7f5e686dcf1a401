import NumberingPlan.Json.Reader
import NumberingPlan.Main
import NumberingPlan.Text.Utf8
import NumberingPlan.Proofs.Utf8Spelling
import NumberingPlan.Proofs.WireReading
import NumberingPlan.Proofs.WireRoundTrip
import NumberingPlan.Proofs.WirePrefixes
import NumberingPlan.Proofs.JavaTokens
import NumberingPlan.Proofs.JavaMethods
import NumberingPlan.Proofs.AccessorReading
import NumberingPlan.Proofs.AccessorMeaning
import NumberingPlan.Proofs.DraftRuns
import NumberingPlan.Proofs.PartPayloads
import NumberingPlan.Proofs.PathTexts
import NumberingPlan.Proofs.TreeAccess
import NumberingPlan.Proofs.PartWriting
import NumberingPlan.Proofs.PartFiles
import NumberingPlan.Proofs.BuildAgreement
import NumberingPlan.Proofs.TreeAgreement
import NumberingPlan.Proofs.BuildOutputs
import NumberingPlan.Proofs.OutputFolder
import NumberingPlan.Proofs.LiteReading
import NumberingPlan.Proofs.LiteBuilds
import NumberingPlan.Proofs.ArgumentTokens
import NumberingPlan.Proofs.CommandRuns
import NumberingPlan.Proofs.NamelessTerritories
import NumberingPlan.Proofs.WireRanges
import NumberingPlan.Proofs.CounterpartFormats
import NumberingPlan.Proofs.LengthItems
import NumberingPlan.Proofs.TerritoryFaults
import NumberingPlan.Proofs.ElementEdits
import NumberingPlan.Proofs.TerritoryLayout
import NumberingPlan.Proofs.FramedText
import NumberingPlan.Proofs.Capacities
import NumberingPlan.Proofs.LeastShape
import NumberingPlan.Proofs.SettingLayers
import NumberingPlan.Proofs.JsonReading
import NumberingPlan.Proofs.LogLines
import NumberingPlan.Proofs.LogSetups
import NumberingPlan.Proofs.RegistryRequests
import NumberingPlan.Proofs.TerritoryNames
import NumberingPlan.Proofs.DocumentCharsets
