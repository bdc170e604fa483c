import Passbook.Json.Printer
import Passbook.Json.Reader
/-!
Values in the texts of JSON.
-/

namespace Passbook.Json

variable {α : Type}

def decode? (read : Json → Option α) (text : String) : Option α := (parse? text).bind read

/-- A text read as a value, which is written again. -/
def rewrite? (read : Json → Option α) (write : α → Json) (text : String) : Option String :=
  (decode? read text).map fun value => (write value).render

end Passbook.Json
