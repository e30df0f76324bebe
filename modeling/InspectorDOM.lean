import InspectorDOM.Document
import InspectorDOM.Agent
import InspectorDOM.Describe
import InspectorDOM.Push
import InspectorDOM.Search
import InspectorDOM.Requests
import InspectorDOM.Path
import InspectorDOM.Styles
import InspectorDOM.Run
import InspectorDOM.Observer
import InspectorDOM.Identity
import InspectorDOM.IdentityRuns
import InspectorDOM.Disclosure
import InspectorDOM.Faults
import InspectorDOM.Handlers
import InspectorDOM.Responses
import InspectorDOM.SearchRuns
import InspectorDOM.SearchRefinement
import InspectorDOM.Scopes
import InspectorDOM.Tree
import InspectorDOM.Described
import InspectorDOM.Mirror
import InspectorDOM.MirrorEdits
import InspectorDOM.SearchQueries
import InspectorDOM.PathGrammar
import InspectorDOM.TagRename
import InspectorDOM.DetachedPush
import InspectorDOM.UnbindSubtree
import InspectorDOM.RenamingRuns
import InspectorDOM.MirrorTree
import InspectorDOM.MirrorRuns
import InspectorDOM.StyleDeclaration
import InspectorDOM.StyleStore
import InspectorDOM.StyleEdits
import InspectorDOM.StyleRules
import InspectorDOM.StyleRuleEdits
import InspectorDOM.StyleSheets
import InspectorDOM.StyleSheetQueries
import InspectorDOM.StyleRefinement
import InspectorDOM.PathFormat
