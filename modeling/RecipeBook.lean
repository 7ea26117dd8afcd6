import RecipeBook.Main
import RecipeBook.Proofs.FirstOccurrence
import RecipeBook.Proofs.StepGraph.Depends
import RecipeBook.Proofs.StepGraph.Scan
import RecipeBook.Proofs.StepGraph.Follows
import RecipeBook.Proofs.StepGraph.Acceptance
import RecipeBook.Proofs.StepGraph.Linked
import RecipeBook.Proofs.Totals.ClosedForm
import RecipeBook.Proofs.Totals.Merge
import RecipeBook.Proofs.Words.Grammar
import RecipeBook.Proofs.Words.Split
import RecipeBook.Proofs.Scanner.Escaped
import RecipeBook.Proofs.Text.LowerCase
import RecipeBook.Proofs.Text.Words
import RecipeBook.Proofs.StableSort
import RecipeBook.Proofs.Query.Written
import RecipeBook.Proofs.Recipe.Loaded
import RecipeBook.Proofs.Query.Holds
import RecipeBook.Proofs.Index.Collected
import RecipeBook.Proofs.Library.Offered
import RecipeBook.Proofs.Library.Indexes
import RecipeBook.Proofs.Library.Outcome
import RecipeBook.Proofs.Library.Loading
import RecipeBook.Proofs.Library.Search
import RecipeBook.Proofs.Document.Notes
import RecipeBook.Proofs.Document.StepLine
import RecipeBook.Proofs.Document.Body
import RecipeBook.Proofs.Document.Header
import RecipeBook.Proofs.Document.Renumbered
import RecipeBook.Proofs.Document.Structure
import RecipeBook.Proofs.Recipe.Places
import RecipeBook.Proofs.Document.FirstFault
import RecipeBook.Proofs.StepGraph.Relinking
import RecipeBook.Proofs.Recipe.Servings
import RecipeBook.Proofs.Index.Lookup
import RecipeBook.Proofs.Library.Order
import RecipeBook.Proofs.Web.Fields
import RecipeBook.Proofs.Library.TagUses
import RecipeBook.Proofs.Text.Trimmed
import RecipeBook.Proofs.Text.Names
import RecipeBook.Proofs.Recipe.Tags
import RecipeBook.Proofs.Recipe.Numbering
import RecipeBook.Proofs.Web.Detail
import RecipeBook.Proofs.Library.Editions
import RecipeBook.Proofs.Library.Related
import RecipeBook.Proofs.Web.Respond
import RecipeBook.Proofs.Web.Related
import RecipeBook.Proofs.Web.Language
import RecipeBook.Proofs.Store.Reloads
import RecipeBook.Proofs.Number.Doubles
import RecipeBook.Proofs.Amount.Format
import RecipeBook.Proofs.Amount.Rounding
import RecipeBook.Proofs.Metadata.Builder
import RecipeBook.Proofs.Metadata.Calls
import RecipeBook.Proofs.Document.HeaderOrder
import RecipeBook.Proofs.Similarity
import RecipeBook.Proofs.StepGraph.FirstFault
import RecipeBook.Proofs.Similarity.EditDistance
import RecipeBook.Proofs.Similarity.Suggestions
import RecipeBook.Proofs.Library.Vocabulary
import RecipeBook.Proofs.Document.Padded
import RecipeBook.Proofs.StepGraph.Unplaced
import RecipeBook.Proofs.Recipe.Converted
import RecipeBook.Proofs.Library.Keys
import RecipeBook.Proofs.Query.Taken
import RecipeBook.Proofs.Url.Path
import RecipeBook.Proofs.Library.Image
import RecipeBook.Proofs.Web.ImageUrl
import RecipeBook.Proofs.Text.Utf8
import RecipeBook.Proofs.FileName
import RecipeBook.Proofs.Library.Names
