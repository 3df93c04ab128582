-- From a document to its schema: first every collection by itself, then the names that
-- all collections share, then the shapes of each collection with its relations resolved.
import StoreClient.Bundle.Basic
import StoreClient.Collection.Basic
import StoreClient.Text.Identifier

namespace StoreClient

namespace Collection

/-! ## Names shared by all collections -/

/-- The type name must be usable, and none of the earlier collections may have it. -/
def claimTypeName (earlier : List Collection) (name : Collection → String) (c : Collection) :
    Except SchemaFault Unit :=
  if !Identifier.isTypeName (name c).toList then .error (.invalidTypeName c.name (name c))
  else
    match earlier.find? fun other => name other = name c with
    | some other => .error (.duplicateTypeName c.name other.name (name c))
    | none => .ok ()

/-- The first name of a collection that clashes with earlier ones: its own, its id, then its
two type names. -/
def claimNames (earlier : List Collection) (c : Collection) : Except SchemaFault Unit :=
  if earlier.any fun other => other.name = c.name then .error (.duplicateCollection c.name)
  else
    match c.id.filter fun id => earlier.any fun other => other.id = some id with
    | some id => .error (.duplicateId c.name id)
    | none =>
      match claimTypeName earlier typeName c with
      | .error fault => .error fault
      | .ok () => claimTypeName earlier pluralTypeName c

/-- Each collection claims its names after those before it. -/
def claimAll (earlier : List Collection) : List Collection → Except SchemaFault Unit
  | [] => .ok ()
  | c :: rest =>
    match claimNames earlier c with
    | .error fault => .error fault
    | .ok () => claimAll (earlier ++ [c]) rest

/-! ## Shapes of a collection -/

/-- Where the relations among some fields of a collection lead. -/
def expansions (all : List Collection) (collection : String) :
    List Field → Except SchemaFault (List Expansion)
  | [] => .ok []
  | f :: rest =>
    match f.relation? with
    | none => expansions all collection rest
    | some (target, cardinality) =>
      match target? all target with
      | none => .error (.unresolvedRelation collection f.name target)
      | some c =>
        match expansions all collection rest with
        | .error fault => .error fault
        | .ok es => .ok (⟨f.name, c.name, c.typeName, cardinality⟩ :: es)

/-- The bundle of a collection among all collections. -/
def bundle (policy : EmptyListPolicy) (all : List Collection) (c : Collection) :
    Except SchemaFault Bundle :=
  match expansions all c.name c.fields with
  | .error fault => .error fault
  | .ok expand =>
    .ok
      { name := c.name, id := c.id, typeName := c.typeName, pluralTypeName := c.pluralTypeName,
        read := c.fields.filterMap (·.readField? policy),
        create := c.fields.filterMap (·.createField? policy),
        update := c.fields.flatMap (·.updateFields policy),
        expand }

/-- The bundles of some collections among all collections. -/
def bundles (policy : EmptyListPolicy) (all : List Collection) :
    List Collection → Except SchemaFault (List Bundle)
  | [] => .ok []
  | c :: rest =>
    match c.bundle policy all with
    | .error fault => .error fault
    | .ok b =>
      match bundles policy all rest with
      | .error fault => .error fault
      | .ok bs => .ok (b :: bs)

end Collection

/-! ## Compiling -/

/-- The schema of a document. The first fault decides, and there is no partial result. -/
def Document.compile (policy : EmptyListPolicy) (d : Document) : Except SchemaFault Schema :=
  match Collection.ofDocument d with
  | .error fault => .error fault
  | .ok collections =>
    match Collection.claimAll [] collections with
    | .error fault => .error fault
    | .ok () =>
      match Collection.bundles policy collections collections with
      | .error fault => .error fault
      | .ok bundles => .ok ⟨bundles⟩

end StoreClient
