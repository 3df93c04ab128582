-- Expressions of the generated client that convert a value as the rules of the fields do.
import StoreClient.Field.Codec

namespace StoreClient

namespace Codec

/-- The expression that turns what the store sends into the value in memory. -/
def parsing (c : Codec) (value : String) : String :=
  match c with
  | temporal => "parseISO(" ++ value ++ ")"
  | nullableTemporal => value ++ " === \"\" ? null : parseISO(" ++ value ++ ")"
  | emptyAsNull .emptyString => value ++ " === \"\" ? null : " ++ value
  | emptyAsNull .emptyList => value ++ ".length === 0 ? null : " ++ value
  | arrayPatch _ => value

/-- The expression that turns the value in memory into what the store expects. -/
def serializing (c : Codec) (value : String) : String :=
  match c with
  | temporal => "formatISO(" ++ value ++ ")"
  | nullableTemporal => value ++ " ? formatISO(" ++ value ++ ") : \"\""
  | emptyAsNull .emptyString => value ++ " ?? \"\""
  | emptyAsNull .emptyList => value ++ " ?? []"
  | arrayPatch _ => value

end Codec

end StoreClient
