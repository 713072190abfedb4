import SearchQuery.Proofs.Datum.Same
import SearchQuery.Proofs.Number.Finite
import SearchQuery.Proofs.Query.Built
import SearchQuery.Proofs.Query.Forms
/-!
# Queries that are stored as text

Whatever turns objects into text and back, a storable query comes back from its text exactly when
its scripts are kept: they have no options of their own, and their clauses have none either. Both
would be written under one name, and under that name only those of the clause are looked for.
-/

namespace SearchQuery

open Datum

variable {merged inner : Bool}

/-! ### Queries without what is passed over -/

/-- Whether what is read in the YAML text of an object is the object as far as the form knows it. -/
def Yaml.shows (form : Form) (entries : Object) : Bool :=
  match Yaml.readText form (Yaml.documentText entries) with
  | .ok (some datum) => datum.same (form.keep (ofJson (.obj entries)))
  | _ => false

end SearchQuery
