-- The published schema of compiled schemas.
import StoreClient.Bundle.Basic
import StoreClient.JsonSchema.Rule

namespace StoreClient

open Rule

/-! ## Words -/

def cardinalityRule : Rule :=
  described "Whether a field holds one value or a sequence of values."
    (words (Cardinality.variants.map (·.1)))

def kindRule : Rule :=
  described "Closed set of supported field kinds." (words (Kind.all.map (·.tag)))

def flavorRule : Rule :=
  described "Semantic marker attached to a string without changing its representation."
    (words (Flavor.variants.map (·.1)))

def patchRule : Rule :=
  described "Patch operation on a multi-valued file field." (words (Patch.variants.map (·.1)))

def sentinelRule : Rule :=
  described "Wire value standing in for \"absent\"." (words (Sentinel.variants.map (·.1)))

/-! ## Types and rules -/

/-- A variant with nothing beside its tag. -/
def plainVariant (tag variant : String) : Rule := record [(tag, true, words [variant])]

/-- A variant of a rule between the store and memory. -/
def codecRule : Rule :=
  described "Decode/encode rule for a single field." (oneOf
    [described "Timestamp text on the wire, temporal value in memory."
       (plainVariant "codec" "temporal"),
     described "Like `Temporal`, with the empty string standing in for null."
       (plainVariant "codec" "nullable_temporal"),
     described "Wire sentinel decodes to null and null encodes to the sentinel." (record
       [("codec", true, words ["empty_as_null"]), ("sentinel", true, ref "Sentinel")]),
     described "Value passes through unchanged but is sent under a patch key." (record
       [("codec", true, words ["array_patch"]), ("op", true, ref "PatchOp")])])

/-- A type around an inner type. -/
def wrapperRule (variant : String) : Rule :=
  record [("inner", true, ref "TypeRef"), ("kind", true, words [variant])]

def typeRule : Rule :=
  described ("Target-language independent description of a field's value type.\n\n" ++
    "Renderers map each variant onto concrete source text; nothing in the core depends on a " ++
    "particular output language.") (oneOf
    [plainVariant "kind" "string",
     plainVariant "kind" "number",
     plainVariant "kind" "boolean",
     described "Arbitrary JSON." (plainVariant "kind" "unknown"),
     described "A point in time." (plainVariant "kind" "temporal"),
     record [("flavor", true, ref "Flavor"), ("kind", true, words ["flavored"])],
     described "Identifier of a related record." (plainVariant "kind" "record_id"),
     described "Name of a file already stored by the remote store."
       (plainVariant "kind" "file_ref"),
     described "Raw file payload sent on create/update." (plainVariant "kind" "binary"),
     described "`\x7b lat, lon \x7d` coordinate pair." (plainVariant "kind" "geo_point"),
     described "One of a fixed set of string literals." (record
       [("kind", true, words ["literals"]), ("values", true, listOf false text)]),
     record [("item", true, ref "TypeRef"), ("kind", true, words ["list"])],
     wrapperRule "nullable",
     described "The inner value, absent, or the wire empty sentinel of its shape."
       (wrapperRule "clearable")])

/-! ## Fields and bundles -/

def readFieldRule : Rule :=
  described "A field of the read shape." (record
    [("doc", false, textOrNull),
     ("kind", true, ref "FieldKind"),
     ("model_type", true, described "Type once decoded." (allOf [ref "TypeRef"])),
     ("name", true, text),
     ("parse", false, described "Wire → model rule; `None` means the value passes through."
       (Rule.orNull (ref "Codec"))),
     ("serialize", false, described "Model → wire rule; `None` means the value passes through."
       (Rule.orNull (ref "Codec"))),
     ("wire_type", true,
       described "Type as sent by the remote store." (allOf [ref "TypeRef"]))])

def writeFieldRule : Rule :=
  described "A field of the create or update shape." (record
    [("doc", false, textOrNull),
     ("kind", true, ref "FieldKind"),
     ("model_type", true, ref "TypeRef"),
     ("name", true, described "In-memory property name." text),
     ("optional", true, described "Whether the property may be omitted." (types [.boolean])),
     ("serialize", false, Rule.orNull (ref "Codec")),
     ("wire_key", true, described
       "Key the remote store expects; differs from `name` for patch companions." text),
     ("wire_type", true, ref "TypeRef")])

def expansionRule : Rule :=
  described "Expansion entry for a relation field." (record
    [("cardinality", true, ref "Cardinality"),
     ("field", true, described "Relation field name." text),
     ("target_collection", true, described "Name of the resolved target collection." text),
     ("target_type_name", true, described "Generated record type name of the target." text)])

def bundleRule : Rule :=
  described "Generated declarations for a single collection." (record
    [("create", true, described "Fields accepted when creating a record."
       (listOf false (ref "WriteField"))),
     ("expand", true, described "One entry per relation field."
       (listOf false (ref "ExpandEntry"))),
     ("id", false, described "Store-assigned collection id, when the source provides one."
       textOrNull),
     ("name", true, described "Collection name as known by the remote store." text),
     ("plural_type_name", true, described "Generated name for the plural form." text),
     ("read", true, described "Fields of a fetched record, in declaration order."
       (listOf false (ref "ReadField"))),
     ("type_name", true,
       described "Generated record type name (from the singular name)." text),
     ("update", true, described
       "Fields accepted when updating a record, including patch companions."
       (listOf false (ref "WriteField")))])

def Schema.published : PublishedSchema where
  title := "CompiledSchema"
  rule := described "Output of one compilation run, one bundle per input collection." (Rule.record
    [("collections", true, listOf false (ref "CollectionBundle"))])
  definitions :=
    [("Cardinality", cardinalityRule), ("Codec", codecRule), ("CollectionBundle", bundleRule),
     ("ExpandEntry", expansionRule), ("FieldKind", kindRule), ("Flavor", flavorRule),
     ("PatchOp", patchRule), ("ReadField", readFieldRule), ("Sentinel", sentinelRule),
     ("TypeRef", typeRule), ("WriteField", writeFieldRule)]

end StoreClient
