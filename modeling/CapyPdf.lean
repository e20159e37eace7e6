import CapyPdf.Basic.Checked
import CapyPdf.Basic.Fails
import CapyPdf.Basic.Moves
import CapyPdf.Basic.Result
import CapyPdf.Basic.UMap
import CapyPdf.Document.Catalog
import CapyPdf.Document.Init
import CapyPdf.Document.Padding
import CapyPdf.Document.Page
import CapyPdf.Document.Pattern
import CapyPdf.Document.Resources
import CapyPdf.Document.Shading
import CapyPdf.Document.Theorems.Along
import CapyPdf.Document.Theorems.Catalog
import CapyPdf.Document.Theorems.Checked
import CapyPdf.Document.Theorems.Construct
import CapyPdf.Document.Theorems.Continues
import CapyPdf.Document.Theorems.Entries
import CapyPdf.Document.Theorems.Fonts
import CapyPdf.Document.Theorems.Mesh
import CapyPdf.Document.Theorems.Numbering.Catalog
import CapyPdf.Document.Theorems.Numbering.Init
import CapyPdf.Document.Theorems.Numbering.Page
import CapyPdf.Document.Theorems.Numbering.Resources
import CapyPdf.Document.Theorems.Outlines
import CapyPdf.Document.Theorems.Padding
import CapyPdf.Document.Theorems.Pages.Frame
import CapyPdf.Document.Theorems.Pages.Tree
import CapyPdf.Document.Theorems.Pages.Use
import CapyPdf.Document.Theorems.Profiles
import CapyPdf.Document.Theorems.Registries
import CapyPdf.DrawContext.Basic
import CapyPdf.DrawContext.Nesting
import CapyPdf.Execution.Op
import CapyPdf.Execution.Theorems.Along
import CapyPdf.Execution.Theorems.Arguments
import CapyPdf.Execution.Theorems.Checked
import CapyPdf.Execution.Theorems.Entries
import CapyPdf.Execution.Theorems.Handles
import CapyPdf.Execution.Theorems.Images
import CapyPdf.Execution.Theorems.NameTree
import CapyPdf.Execution.Theorems.Navigation
import CapyPdf.Execution.Theorems.Numbering
import CapyPdf.Execution.Theorems.OutputIntent
import CapyPdf.Execution.Theorems.Outlines
import CapyPdf.Execution.Theorems.Padding
import CapyPdf.Execution.Theorems.Pages
import CapyPdf.Execution.Theorems.Registries
import CapyPdf.Execution.Theorems.Separation
import CapyPdf.Execution.Theorems.Shading
import CapyPdf.Execution.Theorems.Structure
import CapyPdf.Execution.Theorems.Syntax
import CapyPdf.Objects.Document
import CapyPdf.Objects.Subsetter
import CapyPdf.Objects.Table
import CapyPdf.Objects.Theorems.Table
import CapyPdf.Objects.Types
import CapyPdf.Syntax.Calculator
import CapyPdf.Syntax.Object
