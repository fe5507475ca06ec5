import CatalogSearch.Catalog.Describe
import CatalogSearch.Filter.Display
import CatalogSearch.Filter.Mode
import CatalogSearch.Filter.Render
import CatalogSearch.Main
import CatalogSearch.Proofs.Alternatives
import CatalogSearch.Proofs.Binding
import CatalogSearch.Proofs.Branching
import CatalogSearch.Proofs.Decoding
import CatalogSearch.Proofs.Defaults
import CatalogSearch.Proofs.Documents
import CatalogSearch.Proofs.EmptyLists
import CatalogSearch.Proofs.Heeding
import CatalogSearch.Proofs.Items
import CatalogSearch.Proofs.Joining
import CatalogSearch.Proofs.Lexemes
import CatalogSearch.Proofs.Limits
import CatalogSearch.Proofs.Listing
import CatalogSearch.Proofs.NullTerms
import CatalogSearch.Proofs.Operations
import CatalogSearch.Proofs.Parameters
import CatalogSearch.Proofs.Partial
import CatalogSearch.Proofs.Preview
import CatalogSearch.Proofs.Printing
import CatalogSearch.Proofs.Reading
import CatalogSearch.Proofs.Refusal
import CatalogSearch.Proofs.Registration
import CatalogSearch.Proofs.Rendering
import CatalogSearch.Proofs.Responses
import CatalogSearch.Proofs.Restriction
import CatalogSearch.Proofs.Scanning
import CatalogSearch.Proofs.Scopes
import CatalogSearch.Proofs.SettingUp
import CatalogSearch.Proofs.Shapes
import CatalogSearch.Proofs.SortOrder
import CatalogSearch.Proofs.Tiling
import CatalogSearch.Proofs.Unfiltered
import CatalogSearch.Proofs.Writing
