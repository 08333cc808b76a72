import PluginOrder.Plugin.Assignment
import PluginOrder.Tracing
import PluginOrder.Main
import PluginOrder.Proofs.Resolution.Acceptance
import PluginOrder.Proofs.Resolution.Cycle
import PluginOrder.Proofs.Resolution.Readiness
import PluginOrder.Proofs.Resolution.Blame
import PluginOrder.Proofs.Walk.Recursion
import PluginOrder.Proofs.Resolution.Partition
import PluginOrder.Proofs.Resolution.Safety
import PluginOrder.Proofs.Walk.Composition
import PluginOrder.Proofs.Resolution.Stretch
import PluginOrder.Proofs.Resolution.Telling
import PluginOrder.Proofs.Resolution.Union
import PluginOrder.Proofs.Resolution.Leaf
import PluginOrder.Proofs.Session.Memory
import PluginOrder.Proofs.Resolution.Restriction
import PluginOrder.Proofs.Resolution.Comparison
import PluginOrder.Proofs.Plugin.Decision
import PluginOrder.Proofs.Resolution.Publication
import PluginOrder.Proofs.Resolution.Widening
import PluginOrder.Proofs.Session.Tenure
import PluginOrder.Proofs.Session.History
import PluginOrder.Proofs.Resolution.Journal
import PluginOrder.Proofs.CommandLine.Log
import PluginOrder.Proofs.CommandLine.Lines
import PluginOrder.Proofs.Plugin.Settlement
import PluginOrder.Proofs.Graph.Depiction
import PluginOrder.Proofs.Value.Parts
import PluginOrder.Proofs.Json.Reading
import PluginOrder.Proofs.Plugin.Checking
import PluginOrder.Proofs.Plugin.Grammar
import PluginOrder.Proofs.Plugin.Parsing
import PluginOrder.Proofs.Failure
import PluginOrder.Proofs.Yaml.Lexing
import PluginOrder.Proofs.Yaml.Nodes
import PluginOrder.Proofs.Yaml.Drafts
import PluginOrder.Proofs.Plugin.Refusal
import PluginOrder.Proofs.Files.Tree
import PluginOrder.Proofs.Plugin.Loading
import PluginOrder.Proofs.Walk.Course
import PluginOrder.Proofs.Walk.Cost
import PluginOrder.Proofs.Walk.Finality
import PluginOrder.Proofs.Walk.Coherence
import PluginOrder.Proofs.Walk.Consistency
import PluginOrder.Proofs.Session.Rebinding
import PluginOrder.Proofs.Files.Listing
import PluginOrder.Proofs.Plugin.Concatenation
import PluginOrder.Proofs.Plugin.Writing
import PluginOrder.Proofs.Plugin.Validity
import PluginOrder.Proofs.Plugin.Omission
import PluginOrder.Proofs.Session.Releases
import PluginOrder.Proofs.Version.Line
