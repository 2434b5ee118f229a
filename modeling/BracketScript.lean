import BracketScript.CommandSet.Basic
import BracketScript.CommandSet.Import
import BracketScript.Failure
import BracketScript.FileTree
import BracketScript.Host
import BracketScript.Instance
import BracketScript.Launch.Options
import BracketScript.Launch.Run
import BracketScript.Launch.Linker
import BracketScript.Library
import BracketScript.Main
import BracketScript.Path
import BracketScript.Pool
import BracketScript.Rc.Apply
import BracketScript.Rc.Settings
import BracketScript.Rc.Words
import BracketScript.Registry.Basic
import BracketScript.Registry.Lifetime
import BracketScript.Script.Conditional
import BracketScript.Script.Run
import BracketScript.Script.Scanner
import BracketScript.Script.Skip
import BracketScript.Script.Vocabulary
import BracketScript.Table
import BracketScript.Template.Args
import BracketScript.Template.Binding
import BracketScript.Template.Field
import BracketScript.Template.Spec
import BracketScript.Template.Word
import BracketScript.Text.Blank
import BracketScript.Text.Folding
import BracketScript.Text.Integer
import BracketScript.Text.Lines
import BracketScript.Text.Outline
import BracketScript.Text.Pieces
import BracketScript.Text.Printable
import BracketScript.Text.Quoted
import BracketScript.Value
import BracketScript.Variables
import BracketScript.World
import BracketScript.Proofs.Script.Forest
import BracketScript.Proofs.Script.ForestScan
import BracketScript.Proofs.Script.Pruning
import BracketScript.Proofs.Effect
import BracketScript.Proofs.Script.Steps
import BracketScript.Proofs.Script.Language
import BracketScript.Proofs.Script.TreeWalk
import BracketScript.Proofs.Script.Brackets
import BracketScript.Proofs.Script.Verdict
import BracketScript.Proofs.Script.Recording
import BracketScript.Proofs.Script.Nesting
import BracketScript.Proofs.World
import BracketScript.Proofs.Registry.Operations
import BracketScript.Proofs.Registry.Deeds
import BracketScript.Proofs.Registry.History
import BracketScript.Proofs.Registry.Representation
import BracketScript.Proofs.Registry.Ownership
import BracketScript.Proofs.Registry.Unloading
import BracketScript.Proofs.CommandSet.Staging
import BracketScript.Proofs.CommandSet.Import
import BracketScript.Proofs.Script.Composition
import BracketScript.Proofs.Template.Formation
import BracketScript.Proofs.Template.Specification
import BracketScript.Proofs.Template.Words
import BracketScript.Proofs.Template.Writing
import BracketScript.Proofs.Launch.Spelling
import BracketScript.Proofs.Template.Dealing
import BracketScript.Proofs.Template.Refusal
import BracketScript.Proofs.CommandSet.Defined
import BracketScript.Proofs.Template.Selection
import BracketScript.Proofs.Template.Shapes
import BracketScript.Proofs.Registry.Disposal
import BracketScript.Proofs.Template.Numbers
import BracketScript.Proofs.Rc.Complaints
import BracketScript.Proofs.Registry.Failing
import BracketScript.Proofs.Rc.Writing
import BracketScript.Proofs.Rc.Assignment
import BracketScript.Proofs.Rc.Interleaving
import BracketScript.Proofs.Script.Bytes
import BracketScript.Proofs.Script.Progress
import BracketScript.Proofs.Script.Suspension
import BracketScript.Proofs.Script.OpenSkips
