import Reactivity.Component.Compile
import Reactivity.Component.Options
import Reactivity.Component.Parts
import Reactivity.Component.Scaffold
import Reactivity.Data.Value
import Reactivity.Expression.Kind
import Reactivity.Failure
import Reactivity.Number.Compact
import Reactivity.Number.Magnitude
import Reactivity.Number.Shortest
import Reactivity.Proofs.Component.Awaits
import Reactivity.Proofs.Component.Body
import Reactivity.Proofs.Component.Checks
import Reactivity.Proofs.Component.Contents
import Reactivity.Proofs.Component.DestroyCallbacks
import Reactivity.Proofs.Component.Exports
import Reactivity.Proofs.Component.Factory
import Reactivity.Proofs.Component.Hooks
import Reactivity.Proofs.Component.Layout
import Reactivity.Proofs.Component.Markers
import Reactivity.Proofs.Component.Metadata
import Reactivity.Proofs.Component.ParseErrors
import Reactivity.Proofs.Component.Refusal
import Reactivity.Proofs.Component.Scaffold
import Reactivity.Proofs.Component.Shell
import Reactivity.Proofs.Data.Exchange
import Reactivity.Proofs.Data.Fields
import Reactivity.Proofs.Expression.Braces
import Reactivity.Proofs.Expression.Kind
import Reactivity.Proofs.Refresh.Bodies
import Reactivity.Proofs.Refresh.Counter
import Reactivity.Proofs.Refresh.Counting
import Reactivity.Proofs.Refresh.Decision
import Reactivity.Proofs.Refresh.Entry
import Reactivity.Proofs.Refresh.Erasure
import Reactivity.Proofs.Refresh.Image
import Reactivity.Proofs.Refresh.Marking
import Reactivity.Proofs.Refresh.Outline
import Reactivity.Proofs.Refresh.Renaming
import Reactivity.Proofs.Refresh.Steady
import Reactivity.Proofs.Refresh.Stops
import Reactivity.Proofs.Refresh.Suspension
import Reactivity.Proofs.Refresh.Visited
import Reactivity.Proofs.Scope.RootName
import Reactivity.Proofs.Scope.Scan
import Reactivity.Proofs.Scope.TopLevel
import Reactivity.Proofs.Script.Assembly
import Reactivity.Proofs.Script.BodyLoop
import Reactivity.Proofs.Script.Build
import Reactivity.Proofs.Script.Cut
import Reactivity.Proofs.Script.Grammar.Expression
import Reactivity.Proofs.Script.Grammar.Function
import Reactivity.Proofs.Script.Grammar.Pattern
import Reactivity.Proofs.Script.Grammar.Statement
import Reactivity.Proofs.Script.Grammar.Target
import Reactivity.Proofs.Script.Leaf
import Reactivity.Proofs.Script.Operand
import Reactivity.Proofs.Script.Parent
import Reactivity.Proofs.Script.Phrase
import Reactivity.Proofs.Script.Place
import Reactivity.Proofs.Script.Reader
import Reactivity.Proofs.Script.Reading
import Reactivity.Proofs.Script.Run
import Reactivity.Proofs.Script.Sentence
import Reactivity.Proofs.Script.SimpleName
import Reactivity.Proofs.Script.Single
import Reactivity.Proofs.Script.Stack
import Reactivity.Proofs.Script.Survey
import Reactivity.Proofs.Script.Tally
import Reactivity.Proofs.Script.Token
import Reactivity.Proofs.Script.Twin.Access
import Reactivity.Proofs.Script.Twin.Class
import Reactivity.Proofs.Script.Twin.Cursor
import Reactivity.Proofs.Script.Twin.Declaration
import Reactivity.Proofs.Script.Twin.Expression
import Reactivity.Proofs.Script.Twin.Function
import Reactivity.Proofs.Script.Twin.Gap
import Reactivity.Proofs.Script.Twin.Listing
import Reactivity.Proofs.Script.Twin.Literal
import Reactivity.Proofs.Script.Twin.Marking
import Reactivity.Proofs.Script.Twin.Operation
import Reactivity.Proofs.Script.Twin.Pattern
import Reactivity.Proofs.Script.Twin.Reader
import Reactivity.Proofs.Script.Twin.Reading
import Reactivity.Proofs.Script.Twin.Settle
import Reactivity.Proofs.Script.Twin.Statement
import Reactivity.Proofs.Script.Twin.Target
import Reactivity.Proofs.Script.Twin.Text
import Reactivity.Proofs.Script.Twin.Token
import Reactivity.Proofs.Script.Twin.Tree
import Reactivity.Proofs.Script.Twin.Value
import Reactivity.Proofs.Script.Visit
import Reactivity.Proofs.Script.Walk
import Reactivity.Proofs.Script.WellFormed
import Reactivity.Proofs.Template.Address
import Reactivity.Proofs.Template.Content
import Reactivity.Proofs.Template.Exchange
import Reactivity.Proofs.Template.Gap
import Reactivity.Proofs.Template.Normal
import Reactivity.Proofs.Template.Place
import Reactivity.Proofs.Template.Traversal
import Reactivity.Proofs.Text.Blank
import Reactivity.Proofs.Text.Lines
import Reactivity.Proofs.Text.Quoted
import Reactivity.Proofs.Tree
import Reactivity.Proofs.Watcher.Bytes
import Reactivity.Proofs.Watcher.Cuts
import Reactivity.Proofs.Watcher.Decomposition
import Reactivity.Proofs.Watcher.Reactive
import Reactivity.Proofs.Watcher.Rendering
import Reactivity.Refresh.CheckStop
import Reactivity.Refresh.Injection
import Reactivity.Scope.Root
import Reactivity.Script.Ancestor
import Reactivity.Script.Cursor
import Reactivity.Script.Declared
import Reactivity.Script.Escape
import Reactivity.Script.Grammar.Access
import Reactivity.Script.Grammar.Basic
import Reactivity.Script.Grammar.Class
import Reactivity.Script.Grammar.Declaration
import Reactivity.Script.Grammar.Expression
import Reactivity.Script.Grammar.Function
import Reactivity.Script.Grammar.Literal
import Reactivity.Script.Grammar.Module
import Reactivity.Script.Grammar.Pattern
import Reactivity.Script.Grammar.Settle
import Reactivity.Script.Grammar.Statement
import Reactivity.Script.Grammar.Target
import Reactivity.Script.Layout.Expression
import Reactivity.Script.Layout.Literal
import Reactivity.Script.Layout.Module
import Reactivity.Script.Layout.Setting
import Reactivity.Script.Layout.Statement
import Reactivity.Script.Node
import Reactivity.Script.Operator
import Reactivity.Script.Printing
import Reactivity.Script.Reading
import Reactivity.Script.Token
import Reactivity.Script.Visit
import Reactivity.Script.Walk
import Reactivity.Template.Compact
import Reactivity.Template.Exchange
import Reactivity.Template.Node
import Reactivity.Template.Trace
import Reactivity.Template.Visitor
import Reactivity.Text.Blank
import Reactivity.Text.Identifier
import Reactivity.Text.IdentifierExtend
import Reactivity.Text.IdentifierStart
import Reactivity.Text.Lines
import Reactivity.Text.NameSet
import Reactivity.Text.Quoted
import Reactivity.Text.SimpleName
import Reactivity.Watcher.Basic
import Reactivity.Watcher.Reactive
