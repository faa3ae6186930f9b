import GoWorkbench.Main
import GoWorkbench.Proofs.Index.Generations
import GoWorkbench.Proofs.Index.Switching
import GoWorkbench.Proofs.FileSystem.Trees
import GoWorkbench.Proofs.Path.Components
import GoWorkbench.Proofs.Scan.Exactness
import GoWorkbench.Proofs.FileSystem.Walking
import GoWorkbench.Proofs.FileSystem.Spots
import GoWorkbench.Proofs.Scan.Symbols
import GoWorkbench.Proofs.Scan.Stepwise
import GoWorkbench.Proofs.FileSystem.Writing
import GoWorkbench.Proofs.Service.Writes
import GoWorkbench.Proofs.Service.Editing
import GoWorkbench.Proofs.Service.Freshness
import GoWorkbench.Proofs.FileSystem.Alike
import GoWorkbench.Proofs.Go.Declared
import GoWorkbench.Proofs.Scan.FileByFile
import GoWorkbench.Proofs.Go.Pointing
import GoWorkbench.Proofs.Go.RoundTrip
import GoWorkbench.Proofs.FileSystem.Resolving
import GoWorkbench.Proofs.FileSystem.Straight
import GoWorkbench.Proofs.Service.Answers
import GoWorkbench.Proofs.Service.Scratch
import GoWorkbench.Proofs.Service.Targets
import GoWorkbench.Proofs.FileSystem.Reading
import GoWorkbench.Proofs.Text.LineEnds
import GoWorkbench.Proofs.Service.Phases
import GoWorkbench.Proofs.Service.Variables
import GoWorkbench.Proofs.CommandLine.Settings
import GoWorkbench.Proofs.CommandLine.RunningFiles
import GoWorkbench.Proofs.FileSystem.Keeping
import GoWorkbench.Proofs.Service.Overlapping
import GoWorkbench.Proofs.Service.Independence
import GoWorkbench.Proofs.FileSystem.Containment
import GoWorkbench.Proofs.Service.Triggers
import GoWorkbench.Proofs.Service.Choosing
import GoWorkbench.Proofs.CommandLine.Returning
import GoWorkbench.Proofs.Service.Remembering
import GoWorkbench.Proofs.Imports
import GoWorkbench.Proofs.Index.Reading
import GoWorkbench.Proofs.Service.Sessions
import GoWorkbench.Proofs.CommandLine.Statuses
import GoWorkbench.Proofs.Config.Strictness
import GoWorkbench.Proofs.Service.Noting
import GoWorkbench.Proofs.Service.Persisting
import GoWorkbench.Proofs.Service.Restoring
import GoWorkbench.Proofs.Service.Confinement
import GoWorkbench.Proofs.Service.Attempts
import GoWorkbench.Proofs.Toolchain
import GoWorkbench.Proofs.Service.Toolchains
import GoWorkbench.Proofs.Imports.Aliases
import GoWorkbench.Proofs.Imports.Spelling
import GoWorkbench.Proofs.Text.Lossy
import GoWorkbench.Proofs.Service.CommandLines
