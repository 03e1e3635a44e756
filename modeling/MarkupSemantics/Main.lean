import MarkupSemantics.Catalog.Standard
import MarkupSemantics.Inventory

/-!
# The command line

Prints the summary of the document of the standards.
-/

def main : IO Unit :=
  IO.println (MarkupSemantics.Summary.text MarkupSemantics.Repository.standard)
