import SourceSnapshot.Config.Printer
import SourceSnapshot.Main
import SourceSnapshot.Proofs.Artifact.RoundTrip
import SourceSnapshot.Proofs.Artifact.Numbered
import SourceSnapshot.Proofs.Collect.Exit
import SourceSnapshot.Proofs.Collect.Account
import SourceSnapshot.Proofs.Collect.Truncation
import SourceSnapshot.Proofs.FileSystem.Following
import SourceSnapshot.Proofs.FileSystem.Growth
import SourceSnapshot.Proofs.FileSystem.Making
import SourceSnapshot.Proofs.FileSystem.Framing
import SourceSnapshot.Proofs.FileSystem.Opening
import SourceSnapshot.Proofs.Collect.Idempotence
import SourceSnapshot.Proofs.Collect.Framing
import SourceSnapshot.Proofs.FileSystem.Agreement
import SourceSnapshot.Proofs.FileSystem.Shape
import SourceSnapshot.Proofs.Tree.Shape
import SourceSnapshot.Proofs.Search.Likeness
import SourceSnapshot.Proofs.Collect.Likeness
import SourceSnapshot.Proofs.Collect.Exclusion
import SourceSnapshot.Proofs.Ignore.Consulting
import SourceSnapshot.Proofs.Collect.OwnFile
import SourceSnapshot.Proofs.Tree.Leaves
import SourceSnapshot.Proofs.Search.Restriction
import SourceSnapshot.Proofs.Collect.Restriction
import SourceSnapshot.Proofs.FileSystem.Respelling
import SourceSnapshot.Proofs.Search.Spelling
import SourceSnapshot.Proofs.Collect.Spelling
import SourceSnapshot.Proofs.Config.Normal
import SourceSnapshot.Proofs.Config.RoundTrip
import SourceSnapshot.Proofs.CommandLine.Course
import SourceSnapshot.Proofs.CommandLine.ExitCode
import SourceSnapshot.Proofs.CommandLine.Occurrence
import SourceSnapshot.Proofs.CommandLine.Presentation
import SourceSnapshot.Proofs.Artifact.Calls
import SourceSnapshot.Proofs.Tree.Drawing
import SourceSnapshot.Proofs.Tree.Legibility
import SourceSnapshot.Proofs.Tree.Levels
import SourceSnapshot.Proofs.Json.Unambiguous
import SourceSnapshot.Proofs.Config.Acceptance
import SourceSnapshot.Proofs.Path.FinalName
import SourceSnapshot.Proofs.Config.Decision
import SourceSnapshot.Proofs.Config.Extensions
import SourceSnapshot.Proofs.Config.Layers
import SourceSnapshot.Proofs.CommandLine.Acceptance
import SourceSnapshot.Proofs.CommandLine.Meaning
import SourceSnapshot.Proofs.CommandLine.Configuration
import SourceSnapshot.Proofs.CommandLine.Coloring
import SourceSnapshot.Proofs.Artifact.Stripping
import SourceSnapshot.Proofs.Summary.Grouping
