import HttpInterface.Bytes
import HttpInterface.Call
import HttpInterface.Charset
import HttpInterface.Charset.Recovery
import HttpInterface.Charset.Utf16
import HttpInterface.Charset.Utf8
import HttpInterface.Class.Definition
import HttpInterface.Class.Describe
import HttpInterface.Class.Header
import HttpInterface.Class.Linearization
import HttpInterface.Class.Slot
import HttpInterface.Class.Table
import HttpInterface.Command
import HttpInterface.Command.Bindings
import HttpInterface.Command.Catalog
import HttpInterface.Command.Environment
import HttpInterface.Command.Line
import HttpInterface.Compile
import HttpInterface.CompiledMethod
import HttpInterface.Constant
import HttpInterface.Decimal.Binary
import HttpInterface.Decimal.Fixed
import HttpInterface.Decimal.Read
import HttpInterface.Decimal.Shortest
import HttpInterface.Declaration
import HttpInterface.Defect
import HttpInterface.Draft
import HttpInterface.ExpandedRequest
import HttpInterface.Expansion
import HttpInterface.Expression
import HttpInterface.Expression.Depth
import HttpInterface.Expression.Evaluate
import HttpInterface.Expression.Fault
import HttpInterface.Expression.Formatted
import HttpInterface.Expression.Grammar
import HttpInterface.Expression.Literal
import HttpInterface.Expression.Pause
import HttpInterface.Expression.Statement
import HttpInterface.Expression.Token
import HttpInterface.Format.Layout
import HttpInterface.Format.Number
import HttpInterface.Format.Percent
import HttpInterface.Header
import HttpInterface.Journal
import HttpInterface.Json
import HttpInterface.Json.Read
import HttpInterface.Main
import HttpInterface.Naming
import HttpInterface.Number
import HttpInterface.Number.Arithmetic
import HttpInterface.Number.Read
import HttpInterface.Number.Rounding
import HttpInterface.Object
import HttpInterface.Object.Arithmetic
import HttpInterface.Object.Calling
import HttpInterface.Object.Class
import HttpInterface.Object.Collection
import HttpInterface.Object.Comparison
import HttpInterface.Object.Demand
import HttpInterface.Object.ErrorText
import HttpInterface.Object.FormMethod
import HttpInterface.Object.Formatting
import HttpInterface.Object.Frozen
import HttpInterface.Object.Item
import HttpInterface.Object.Iteration
import HttpInterface.Object.JsonForm
import HttpInterface.Object.Member
import HttpInterface.Object.Special
import HttpInterface.Object.UrlMember
import HttpInterface.OrderedMap
import HttpInterface.PathAndQuery
import HttpInterface.Percent
import HttpInterface.Placeholder
import HttpInterface.Predefined.BytesMember
import HttpInterface.Predefined.Class
import HttpInterface.Predefined.CollectionMember
import HttpInterface.Predefined.Construction
import HttpInterface.Predefined.Documentation
import HttpInterface.Predefined.FormMember
import HttpInterface.Predefined.Function
import HttpInterface.Predefined.Member
import HttpInterface.Predefined.Module
import HttpInterface.Predefined.NumberMember
import HttpInterface.Predefined.OperatorMember
import HttpInterface.Predefined.Reply
import HttpInterface.Predefined.TextMember
import HttpInterface.Predefined.UrlMember
import HttpInterface.Proofs.Body
import HttpInterface.Proofs.Body.Joined
import HttpInterface.Proofs.Body.Literal
import HttpInterface.Proofs.Builder.History
import HttpInterface.Proofs.Builder.InPlace
import HttpInterface.Proofs.Builder.Values
import HttpInterface.Proofs.Call
import HttpInterface.Proofs.Call.Shortage
import HttpInterface.Proofs.Charset
import HttpInterface.Proofs.Charset.ReadAsUtf8
import HttpInterface.Proofs.Charset.Utf8
import HttpInterface.Proofs.Class.Bases
import HttpInterface.Proofs.Class.Compile
import HttpInterface.Proofs.Class.Describe
import HttpInterface.Proofs.Class.Function
import HttpInterface.Proofs.Class.Hierarchy
import HttpInterface.Proofs.Class.Linearization
import HttpInterface.Proofs.Class.Names
import HttpInterface.Proofs.Class.Table
import HttpInterface.Proofs.Command
import HttpInterface.Proofs.Compile.Acceptance
import HttpInterface.Proofs.Compile.Bindings
import HttpInterface.Proofs.Compile.Callable
import HttpInterface.Proofs.Compile.Consistency
import HttpInterface.Proofs.Compile.Draft
import HttpInterface.Proofs.Compile.Failure
import HttpInterface.Proofs.Compile.Headers
import HttpInterface.Proofs.Compile.LineNames
import HttpInterface.Proofs.Compile.Markers
import HttpInterface.Proofs.Compile.Method
import HttpInterface.Proofs.Compile.Reordering
import HttpInterface.Proofs.Compile.ShownBody
import HttpInterface.Proofs.Compile.Warnings
import HttpInterface.Proofs.Components
import HttpInterface.Proofs.ContentLength
import HttpInterface.Proofs.Delimiters
import HttpInterface.Proofs.Draft
import HttpInterface.Proofs.Expansion
import HttpInterface.Proofs.Expansion.Alike
import HttpInterface.Proofs.Expansion.Optional
import HttpInterface.Proofs.Expansion.Outcome
import HttpInterface.Proofs.Expansion.Values
import HttpInterface.Proofs.HashKey
import HttpInterface.Proofs.List
import HttpInterface.Proofs.OrderedMap
import HttpInterface.Proofs.OrderedMap.Grouping
import HttpInterface.Proofs.Origin
import HttpInterface.Proofs.Override
import HttpInterface.Proofs.PathAndQuery
import HttpInterface.Proofs.Percent
import HttpInterface.Proofs.Percent.Ascii
import HttpInterface.Proofs.Percent.Unquote
import HttpInterface.Proofs.Placeholder
import HttpInterface.Proofs.Placeholder.Decoded
import HttpInterface.Proofs.Placeholder.Places
import HttpInterface.Proofs.Record
import HttpInterface.Proofs.RequestLine
import HttpInterface.Proofs.Substitution
import HttpInterface.Proofs.Text.Blank
import HttpInterface.Proofs.Text.Split
import HttpInterface.Proofs.Url.Escape
import HttpInterface.Proofs.Url.Parts
import HttpInterface.Proofs.Url.Path
import HttpInterface.Record
import HttpInterface.Record.Builder
import HttpInterface.Record.Coding
import HttpInterface.Record.Issue
import HttpInterface.Record.OfFields
import HttpInterface.Record.Text
import HttpInterface.Record.WholeNumber
import HttpInterface.RequestLine
import HttpInterface.Sequence
import HttpInterface.Settings
import HttpInterface.Signature
import HttpInterface.StatusCode
import HttpInterface.Template
import HttpInterface.Text.Blank
import HttpInterface.Text.Case
import HttpInterface.Text.CharName
import HttpInterface.Text.Decomposition
import HttpInterface.Text.Digit
import HttpInterface.Text.Letter
import HttpInterface.Text.LetterName
import HttpInterface.Text.LowerCase
import HttpInterface.Text.NameChar
import HttpInterface.Text.Normal
import HttpInterface.Text.Quoted
import HttpInterface.Text.Similar
import HttpInterface.Text.Split
import HttpInterface.Text.SymbolName
import HttpInterface.Text.Unprintable
import HttpInterface.TypeExpr
import HttpInterface.TypeExpr.Apply
import HttpInterface.TypeExpr.Build
import HttpInterface.TypeExpr.Compare
import HttpInterface.TypeExpr.Error
import HttpInterface.TypeExpr.Hash
import HttpInterface.TypeExpr.LookUp
import HttpInterface.TypeExpr.OfValue
import HttpInterface.Url
import HttpInterface.Url.Change
import HttpInterface.Url.Component
import HttpInterface.Url.Escape
import HttpInterface.Url.Host
import HttpInterface.Url.Parts
import HttpInterface.Value
import HttpInterface.Variable
import HttpInterface.WireRequest
