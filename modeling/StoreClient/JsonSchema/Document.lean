-- The published schema of documents.
import StoreClient.JsonSchema.Rule

namespace StoreClient

open Rule

/-- A collection as it is declared. -/
def collectionRule : Rule :=
  described "One collection before its fields are validated." (record
    [("fields", false,
       described "Raw field declarations in declaration order." (listOf true anything)),
     ("id", false,
       described "Store-assigned id; relation targets may refer to it." textOrNull),
     ("name", true, text),
     ("plural", false,
       described "Name used for many records, defaults to `name`." textOrNull),
     ("singular", false,
       described "Name used for a single record, defaults to `name`." textOrNull)])

def Document.published : PublishedSchema where
  title := "SchemaDocument"
  rule := described "Raw schema as handed over by a schema source." (record
    [("collections", true, listOf false (ref "CollectionSchema"))])
  definitions := [("CollectionSchema", collectionRule)]

end StoreClient
