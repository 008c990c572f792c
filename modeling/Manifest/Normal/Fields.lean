import Manifest.Normal.Repository
import Manifest.Normal.Tokens

/-!
# Normal form of the fields

Seven fields have a normal form. A field whose normal form is `none` is removed.
-/

namespace Manifest.Normal

open Json (Members Value)

/-- The fields that have a normal form. -/
def transforms : List (String × (Value → Option Value)) :=
  [("keywords", keywords),
   ("platforms", platforms),
   ("frameworks", frameworks),
   ("authors", authors),
   ("export", exportRules),
   ("repository", repository),
   ("system", system)]

/-- Brings one field into its normal form. Fields without one stay as they are. -/
def field (members : Members) (name : String) : Members :=
  match transforms.lookup name, members.get? name with
  | some transform, some v => (members.erase name).insertSome name (transform v)
  | _, _ => members

/-- Brings every field into its normal form. -/
def fields (members : Members) : Members :=
  (transforms.map (·.1)).foldl field members

end Manifest.Normal
