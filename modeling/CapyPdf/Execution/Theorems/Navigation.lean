import CapyPdf.Document.Theorems.Continues
import CapyPdf.Execution.Op

namespace CapyPdf

namespace PdfDocument

variable (env : Env)

end PdfDocument

end CapyPdf
