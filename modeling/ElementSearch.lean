import ElementSearch.Unicode.CaseMap
import ElementSearch.Unicode.Property
import ElementSearch.Unicode.Script
import ElementSearch.Text.Basic
import ElementSearch.Text.Quoted
import ElementSearch.Regex.Search
import ElementSearch.Regex.Property
import ElementSearch.Regex.Parse
import ElementSearch.Json.Reader
import ElementSearch.Json.Writer
import ElementSearch.OrderedMap
import ElementSearch.Selector.Key
import ElementSearch.Selector.Value
import ElementSearch.Selector.Json
import ElementSearch.Selector.Normalize
import ElementSearch.Query.Plan
import ElementSearch.Query.LiteralEdges
import ElementSearch.Query.Compiled
import ElementSearch.Search.Collection
import ElementSearch.Document
import ElementSearch.Browser.Settings
import ElementSearch.Browser.Session
import ElementSearch.Proofs.Regex.Matching
import ElementSearch.Proofs.Regex.Search
import ElementSearch.Proofs.Regex.Assembly
import ElementSearch.Proofs.Regex.Escape
import ElementSearch.Proofs.Regex.Token
import ElementSearch.Proofs.Query.AtomScan
import ElementSearch.Proofs.Query.ClassScan
import ElementSearch.Proofs.Query.LiteralEdges
import ElementSearch.Proofs.Query.EscapedEdges
import ElementSearch.Proofs.XPath.Reader
import ElementSearch.Proofs.Query.ReadBack
import ElementSearch.Proofs.Search.Position
import ElementSearch.Proofs.Search.Yields
import ElementSearch.Proofs.Selector.Normalize
import ElementSearch.Proofs.Selector.Filing
import ElementSearch.Proofs.Css.Meaning
import ElementSearch.Proofs.Query.Languages
import ElementSearch.Proofs.Query.Preference
import ElementSearch.Proofs.Query.Narrowing
import ElementSearch.Proofs.Text.Lowercase
import ElementSearch.Proofs.Query.TypeCriterion
import ElementSearch.Proofs.Query.ClassCriterion
import ElementSearch.Proofs.Search.Rechecks
import ElementSearch.Proofs.Search.Refinement
import ElementSearch.Proofs.Search.SingleMatch
import ElementSearch.Proofs.Search.Candidates
import ElementSearch.Proofs.Search.Labels
import ElementSearch.Proofs.Search.Filter
import ElementSearch.Proofs.Search.References
import ElementSearch.Proofs.Search.WriteOnce
import ElementSearch.Proofs.Search.Lookups
import ElementSearch.Proofs.Search.Checks
import ElementSearch.Proofs.Search.RoundTrips
import ElementSearch.Proofs.Search.Refusals
import ElementSearch.Proofs.Search.Aliases
import ElementSearch.Proofs.Selector.Order
import ElementSearch.Proofs.Json.Scalars
import ElementSearch.Proofs.Json.ReadBack
import ElementSearch.Proofs.Selector.RoundTrip
import ElementSearch.Proofs.Css.StringReader
import ElementSearch.Proofs.Query.CssValues
import ElementSearch.Proofs.Query.LabelCriterion
import ElementSearch.Proofs.Regex.Exact
import ElementSearch.Proofs.Text.Squeezed
import ElementSearch.Proofs.Query.TextCriterion
import ElementSearch.Proofs.XPath.StringExpression
import ElementSearch.Proofs.Browser.Translation
import ElementSearch.Proofs.Query.GivenQuery
import ElementSearch.Proofs.Query.Parts
import ElementSearch.Proofs.Search.Scans
import ElementSearch.Proofs.Search.Links
import ElementSearch.Proofs.Search.Scope
import ElementSearch.Proofs.Tree.DocumentOrder
import ElementSearch.Proofs.Browser.ActiveTab
import ElementSearch.Proofs.Browser.Exchanges
import ElementSearch.Proofs.Browser.Failures
import ElementSearch.Proofs.Query.ClassEnd
