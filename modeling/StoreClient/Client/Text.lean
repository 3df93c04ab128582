-- The text of the generated client, line by line: what every client has, then a part for
-- each collection, then the table of the collections and the client's own interface.
import StoreClient.Client.View

namespace StoreClient

namespace ClientText

/-! ## What every client has -/

/-- The lines before the collections. -/
def preamble : List String :=
  ["import \x7b formatISO, parseISO \x7d from \"date-fns\";",
   "",
   "declare const flavor: unique symbol;",
   "type Flavored<T, F extends string> = T & \x7b readonly [flavor]?: F \x7d;",
   "",
   "export type Email = Flavored<string, \"Email\">;",
   "export type Url = Flavored<string, \"Url\">;",
   "export type RichText = Flavored<string, \"RichText\">;",
   "export type RecordId = Flavored<string, \"RecordId\">;",
   "export type GeoPoint = \x7b lat: number; lon: number \x7d;",
   "",
   "/** Relations to expand, each nesting the expansion of its target. */",
   "export type ExpandTree = \x7b [relation: string]: ExpandTree | undefined \x7d;",
   "",
   "export type ListOptions<E extends ExpandTree = ExpandTree, F extends string = string> = \x7b",
   "  page?: number;",
   "  perPage?: number;",
   "  sort?: string;",
   "  filter?: string;",
   "  expand?: E;",
   "  fields?: F[];",
   "  skipTotal?: boolean;",
   "\x7d;",
   "",
   "/** Flattens `\x7b a: \x7b b: \x7b\x7d \x7d \x7d` into the `a,a.b` query parameter. */",
   "export function expandQuery(expand?: ExpandTree): string | undefined \x7b",
   "  if (expand === undefined) \x7b",
   "    return undefined;",
   "  \x7d",
   "  const paths: string[] = [];",
   "  const visit = (prefix: string, tree: ExpandTree): void => \x7b",
   "    for (const [relation, nested] of Object.entries(tree)) \x7b",
   "      const path = prefix === \"\" ? relation : `$\x7bprefix\x7d.$\x7brelation\x7d`;",
   "      paths.push(path);",
   "      if (nested !== undefined) \x7b",
   "        visit(path, nested);",
   "      \x7d",
   "    \x7d",
   "  \x7d;",
   "  visit(\"\", expand);",
   "  return paths.length === 0 ? undefined : paths.join(\",\");",
   "\x7d",
   "",
   "export function fieldsQuery(fields?: readonly string[]): string | undefined \x7b",
   "  return fields === undefined || fields.length === 0 ? undefined : fields.join(\",\");",
   "\x7d",
   "",
   "export type ListResult<T> = \x7b",
   "  page: number;",
   "  perPage: number;",
   "  totalItems: number;",
   "  totalPages: number;",
   "  items: T[];",
   "\x7d;"]

/-- The lines after the table of the collections. -/
def interface : List String :=
  ["",
   "export type CollectionName = keyof CollectionTypes;",
   "",
   "export interface TypedClient \x7b",
   "  getOne<N extends CollectionName>(",
   "    collection: N,",
   "    id: string,",
   "    options?: Pick<CollectionTypes[N][\"listOptions\"], \"expand\" | \"fields\">,",
   "  ): Promise<CollectionTypes[N][\"expanded\"]>;",
   "  getList<N extends CollectionName>(",
   "    collection: N,",
   "    options?: CollectionTypes[N][\"listOptions\"],",
   "  ): Promise<ListResult<CollectionTypes[N][\"expanded\"]>>;",
   "  create<N extends CollectionName>(",
   "    collection: N,",
   "    data: CollectionTypes[N][\"create\"],",
   "  ): Promise<CollectionTypes[N][\"record\"]>;",
   "  update<N extends CollectionName>(",
   "    collection: N,",
   "    id: string,",
   "    data: CollectionTypes[N][\"update\"],",
   "  ): Promise<CollectionTypes[N][\"record\"]>;",
   "  delete<N extends CollectionName>(collection: N, id: string): Promise<void>;",
   "\x7d"]

/-! ## Object types -/

/-- An object type with its properties, one on a line. -/
def objectType (name : String) (properties : List String) : List String :=
  ["", "export type " ++ name ++ " = \x7b"] ++ properties ++ ["\x7d;"]

/-- A type that is another name for a type. -/
def aliasType (name type : String) : List String :=
  ["", "export type " ++ name ++ " = " ++ type ++ ";"]

/-- The comment on a property. -/
def docLines : Option String → List String
  | some doc => ["  /** " ++ doc ++ " */"]
  | none => []

def property (key : String) (isOptional : Bool) (type : String) : String :=
  "  " ++ key ++ (if isOptional then "?" else "") ++ ": " ++ type ++ ";"

/-- A property of a record in memory. -/
def modelProperty (f : FieldView) : List String :=
  docLines f.doc ++ [property f.key f.isOptional f.modelType]

/-- A property of a record as the store has it. -/
def wireProperty (f : FieldView) : String := property f.wireKey f.isOptional f.wireType

/-- Every fetched record has an id, declared or not. -/
def idProperty (v : BundleView) (type : String) : List String :=
  if v.hasIdField then [] else [property "id" false type]

/-- The types of records in memory and as the store has them. -/
def recordTypes (v : BundleView) : List String :=
  objectType v.typeName (idProperty v "RecordId" ++ v.read.flatMap modelProperty) ++
  objectType (v.typeName ++ "Serialized") (idProperty v "string" ++ v.read.map wireProperty) ++
  objectType (v.typeName ++ "Create") (v.create.flatMap modelProperty) ++
  objectType (v.typeName ++ "CreateSerialized") (v.create.map wireProperty) ++
  objectType (v.typeName ++ "Update") (v.update.flatMap modelProperty) ++
  objectType (v.typeName ++ "UpdateSerialized") (v.update.map wireProperty)

/-! ## Relations -/

/-- The related records of a relation, of a type with an ending. -/
def expandProperty (ending : String) (e : ExpansionView) : String :=
  property e.key true (e.typeName ++ ending ++ (if e.isMultiple then "[]" else ""))

/-- A type together with its related records. -/
def withExpand (type expand : String) : String :=
  type ++ " & \x7b expand?: " ++ expand ++ " \x7d"

/-- The types of records with their related records. -/
def expandedTypes (v : BundleView) : List String :=
  let name := v.typeName
  if v.hasExpansion then
    objectType (name ++ "Expand") (v.expand.map (expandProperty "Expanded")) ++
    objectType (name ++ "ExpandSerialized") (v.expand.map (expandProperty "ExpandedSerialized")) ++
    aliasType (name ++ "Expanded") (withExpand name (name ++ "Expand")) ++
    aliasType (name ++ "ExpandedSerialized")
      (withExpand (name ++ "Serialized") (name ++ "ExpandSerialized"))
  else
    aliasType (name ++ "Expanded") name ++
    aliasType (name ++ "ExpandedSerialized") (name ++ "Serialized")

/-- The types of what may be asked of a list of records. -/
def optionTypes (v : BundleView) : List String :=
  let name := v.typeName
  aliasType (name ++ "FieldName") v.fieldNames ++
  (if v.hasExpansion then
    objectType (name ++ "ExpandOptions") (v.expand.map fun e =>
      property e.key true (e.typeName ++ "ExpandOptions"))
  else aliasType (name ++ "ExpandOptions") "\x7b [relation: string]: never \x7d") ++
  aliasType (name ++ "ListOptions")
    ("ListOptions<" ++ name ++ "ExpandOptions, " ++ name ++ "FieldName>")

/-! ## Functions -/

/-- A function of a record. -/
def function (name recordType resultType : String) (body : List String) : List String :=
  ["", "export function " ++ name ++ "(record: " ++ recordType ++ "): " ++ resultType ++ " \x7b"] ++
  body ++ ["\x7d"]

/-- Gives back the properties of an object, some of them replaced. -/
def returnWith (source : String) (replaced : List String) : List String :=
  ["  return \x7b", "    ..." ++ source ++ ","] ++ replaced ++ ["  \x7d;"]

def replacement (key value : String) : String := "    " ++ key ++ ": " ++ value ++ ","

/-- What changes from the store to memory. -/
def parsed (f : FieldView) : Option String := f.parser.map (replacement f.key)

/-- What changes from memory to the store. -/
def serialized (f : FieldView) : Option String := f.serializer.map (replacement f.wireKey)

/-- The related records of one relation, each parsed in turn. -/
def parsedExpansion (e : ExpansionView) : String :=
  let parser := "parse" ++ e.typeName ++ "Expanded"
  "      " ++ e.key ++ ": " ++
  (if e.isMultiple then e.value ++ "?.map(" ++ parser ++ "),"
   else e.value ++ " === undefined ? undefined : " ++ parser ++ "(" ++ e.value ++ "),")

/-- Parses a record and its related records. -/
def parseExpandedBody (v : BundleView) : List String :=
  if v.hasExpansion then
    ["  const \x7b expand, ...rest \x7d = record;",
     "  const parsed = parse" ++ v.typeName ++ "(rest);",
     "  if (expand === undefined) \x7b",
     "    return parsed;",
     "  \x7d",
     "  return \x7b",
     "    ...parsed,",
     "    expand: \x7b"] ++ v.expand.map parsedExpansion ++
    ["    \x7d,",
     "  \x7d;"]
  else ["  return parse" ++ v.typeName ++ "(record);"]

/-- Takes the patches out of a change to a record and sends each under its own key. -/
def serializeUpdateBody (v : BundleView) : List String :=
  let replaced := v.update.filterMap serialized
  if v.hasCompanions then
    ("  const \x7b " ++ ", ".intercalate v.companionBindings ++ ", ...rest \x7d = record;") ::
    returnWith "rest" replaced
  else returnWith "record" replaced

/-- The functions between records in memory and records as the store has them. -/
def functions (v : BundleView) : List String :=
  let name := v.typeName
  function ("parse" ++ name) (name ++ "Serialized") name
    (returnWith "record" (v.read.filterMap parsed)) ++
  function ("parse" ++ name ++ "Expanded") (name ++ "ExpandedSerialized") (name ++ "Expanded")
    (parseExpandedBody v) ++
  function ("serialize" ++ name) name (name ++ "Serialized")
    (returnWith "record" (v.read.filterMap serialized)) ++
  function ("serialize" ++ name ++ "Create") (name ++ "Create") (name ++ "CreateSerialized")
    (returnWith "record" (v.create.filterMap serialized)) ++
  function ("serialize" ++ name ++ "Update") (name ++ "Update") (name ++ "UpdateSerialized")
    (serializeUpdateBody v)

/-! ## The whole client -/

/-- The part of a collection. -/
def collection (v : BundleView) : List String :=
  ["", "// " ++ v.name] ++ recordTypes v ++ expandedTypes v ++ optionTypes v ++ functions v

/-- The entry of a collection in the table. -/
def tableEntry (v : BundleView) : List String :=
  ["  " ++ v.nameLiteral ++ ": \x7b",
   "    record: " ++ v.typeName ++ ";",
   "    serialized: " ++ v.typeName ++ "Serialized;",
   "    create: " ++ v.typeName ++ "Create;",
   "    update: " ++ v.typeName ++ "Update;",
   "    expanded: " ++ v.typeName ++ "Expanded;",
   "    listOptions: " ++ v.typeName ++ "ListOptions;",
   "  \x7d;"]

/-- The types of every collection under its name. -/
def table (vs : List BundleView) : List String :=
  ["", "export interface CollectionTypes \x7b"] ++ vs.flatMap tableEntry ++ ["\x7d"]

def lines (vs : List BundleView) : List String :=
  ("// Generated by " ++ generatorName ++ ". Do not edit.") :: preamble ++
  vs.flatMap collection ++ table vs ++ interface

end ClientText

/-- The text of the client of a schema. -/
def Schema.clientText (s : Schema) : String :=
  String.join ((ClientText.lines s.views).map fun line => line ++ "\n")

end StoreClient
