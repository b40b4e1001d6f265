import CodeCursor.Comment.Preceding
import CodeCursor.Cursor.Visit
import CodeCursor.Session
import CodeCursor.Toml.Document
import CodeCursor.Tree.Preorder
import CodeCursor.Proofs.Places
import CodeCursor.Proofs.CursorTrees
import CodeCursor.Proofs.Exposures
import CodeCursor.Proofs.OptionFilters
import CodeCursor.Proofs.DiagnosticSearch
import CodeCursor.Proofs.IndexRuns
import CodeCursor.Proofs.Visits
import CodeCursor.Proofs.DeclaredNames
import CodeCursor.Proofs.NameFolding
import CodeCursor.Proofs.NameBearers
import CodeCursor.Proofs.FunctionDeclarators
import CodeCursor.Proofs.SplitDeclarations
import CodeCursor.Proofs.PointerDeclarators
import CodeCursor.Proofs.SkippedBodies
import CodeCursor.Proofs.ListedDeclarators
import CodeCursor.Proofs.CursorSearch
import CodeCursor.Proofs.SpacedTexts
import CodeCursor.Proofs.SelectorSpellings
import CodeCursor.Proofs.Sketches
import CodeCursor.Proofs.Surroundings
import CodeCursor.Proofs.Conditionals
import CodeCursor.Proofs.ConditionalMembers
import CodeCursor.Proofs.ConditionalBlocks
import CodeCursor.Proofs.LocationOrder
import CodeCursor.Proofs.CursorIdentity
import CodeCursor.Proofs.NestedExtents
import CodeCursor.Proofs.ListingOrder
import CodeCursor.Proofs.CommentRuns
import CodeCursor.Proofs.CommentLines
import CodeCursor.Proofs.CommentStyles
import CodeCursor.Proofs.CommentMarks
import CodeCursor.Proofs.TemplateComments
import CodeCursor.Proofs.SplitComments
import CodeCursor.Proofs.NumberLiterals
import CodeCursor.Proofs.CalleeSpellings
import CodeCursor.Proofs.QualifiedNames
import CodeCursor.Proofs.LanguageArguments
import CodeCursor.Proofs.OperatorSpellings
import CodeCursor.Proofs.PathDialects
import CodeCursor.Proofs.TypeSpellings
import CodeCursor.Proofs.Snippets
import CodeCursor.Proofs.DiagnosticLines
import CodeCursor.Proofs.ClassHeaders
import CodeCursor.Proofs.SettingsTables
import CodeCursor.Proofs.QuotedTexts
import CodeCursor.Proofs.CursorDescriptions
import CodeCursor.Proofs.NameSearches
