-- Names as members of objects: a plain name stands bare, and any other in quotes.
import StoreClient.Text.Identifier
import StoreClient.Text.Literal

namespace StoreClient

namespace Member

/-- A name as a key of an object type or an object. -/
def key (name : String) : String :=
  if Identifier.isPlain name.toList then name else Literal.ofString name

/-- A name as a member of an object. -/
def access (object name : String) : String :=
  if Identifier.isPlain name.toList then object ++ "." ++ name
  else object ++ "[" ++ Literal.ofString name ++ "]"

end Member

end StoreClient
