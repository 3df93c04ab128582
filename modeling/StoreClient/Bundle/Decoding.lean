-- Reading schemas and bundles back from their JSON form.
import StoreClient.Bundle.Basic

namespace StoreClient

open Decode (slot optional list text flag)

/-! ## Fields -/

/-- The parts of a field of a fetched record read so far. -/
structure ReadField.Partial where
  name : Option String := none
  kind : Option Kind := none
  modelType : Option ValueType := none
  wireType : Option ValueType := none
  parse : Option (Option Codec) := none
  serialize : Option (Option Codec) := none
  doc : Option (Option String) := none

def ReadField.record : Decode.Record ReadField.Partial ReadField where
  name := "ReadField"
  slots :=
    [slot "name" .never text (·.name) fun v s => { s with name := v },
     slot "kind" .never Kind.decode (·.kind) fun v s => { s with kind := v },
     slot "model_type" .never ValueType.decode (·.modelType) fun v s => { s with modelType := v },
     slot "wire_type" .never ValueType.decode (·.wireType) fun v s => { s with wireType := v },
     slot "parse" .inObject (optional Codec.decode) (·.parse) fun v s =>
       { s with parse := some v },
     slot "serialize" .inObject (optional Codec.decode) (·.serialize) fun v s =>
       { s with serialize := some v },
     slot "doc" .inObject (optional text) (·.doc) fun v s => { s with doc := some v }]
  start := {}
  finish := fun s => do
    pure { name := ← s.name, kind := ← s.kind, modelType := ← s.modelType,
           wireType := ← s.wireType, parse := s.parse.join, serialize := s.serialize.join,
           doc := s.doc.join }

def ReadField.decode : Decoder ReadField := ReadField.record.decode

/-- The parts of a field of a written record read so far. -/
structure WriteField.Partial where
  name : Option String := none
  wireKey : Option String := none
  kind : Option Kind := none
  modelType : Option ValueType := none
  wireType : Option ValueType := none
  isOptional : Option Bool := none
  serialize : Option (Option Codec) := none
  doc : Option (Option String) := none

def WriteField.record : Decode.Record WriteField.Partial WriteField where
  name := "WriteField"
  slots :=
    [slot "name" .never text (·.name) fun v s => { s with name := v },
     slot "wire_key" .never text (·.wireKey) fun v s => { s with wireKey := v },
     slot "kind" .never Kind.decode (·.kind) fun v s => { s with kind := v },
     slot "model_type" .never ValueType.decode (·.modelType) fun v s => { s with modelType := v },
     slot "wire_type" .never ValueType.decode (·.wireType) fun v s => { s with wireType := v },
     slot "optional" .never flag (·.isOptional) fun v s => { s with isOptional := v },
     slot "serialize" .inObject (optional Codec.decode) (·.serialize) fun v s =>
       { s with serialize := some v },
     slot "doc" .inObject (optional text) (·.doc) fun v s => { s with doc := some v }]
  start := {}
  finish := fun s => do
    pure { name := ← s.name, wireKey := ← s.wireKey, kind := ← s.kind,
           modelType := ← s.modelType, wireType := ← s.wireType, isOptional := ← s.isOptional,
           serialize := s.serialize.join, doc := s.doc.join }

def WriteField.decode : Decoder WriteField := WriteField.record.decode

/-! ## Expansions -/

/-- The parts of an expansion read so far. -/
structure Expansion.Partial where
  field : Option String := none
  collection : Option String := none
  typeName : Option String := none
  cardinality : Option Cardinality := none

def Expansion.record : Decode.Record Expansion.Partial Expansion where
  name := "ExpandEntry"
  slots :=
    [slot "field" .never text (·.field) fun v s => { s with field := v },
     slot "target_collection" .never text (·.collection) fun v s => { s with collection := v },
     slot "target_type_name" .never text (·.typeName) fun v s => { s with typeName := v },
     slot "cardinality" .never Cardinality.decode (·.cardinality) fun v s =>
       { s with cardinality := v }]
  start := {}
  finish := fun s => do
    pure { field := ← s.field, collection := ← s.collection, typeName := ← s.typeName,
           cardinality := ← s.cardinality }

def Expansion.decode : Decoder Expansion := Expansion.record.decode

/-! ## Bundles and schemas -/

/-- The parts of a bundle read so far. -/
structure Bundle.Partial where
  name : Option String := none
  id : Option (Option String) := none
  typeName : Option String := none
  pluralTypeName : Option String := none
  read : Option (List ReadField) := none
  create : Option (List WriteField) := none
  update : Option (List WriteField) := none
  expand : Option (List Expansion) := none

def Bundle.record : Decode.Record Bundle.Partial Bundle where
  name := "CollectionBundle"
  slots :=
    [slot "name" .never text (·.name) fun v s => { s with name := v },
     slot "id" .inObject (optional text) (·.id) fun v s => { s with id := some v },
     slot "type_name" .never text (·.typeName) fun v s => { s with typeName := v },
     slot "plural_type_name" .never text (·.pluralTypeName) fun v s =>
       { s with pluralTypeName := v },
     slot "read" .never (list ReadField.decode) (·.read) fun v s => { s with read := v },
     slot "create" .never (list WriteField.decode) (·.create) fun v s => { s with create := v },
     slot "update" .never (list WriteField.decode) (·.update) fun v s => { s with update := v },
     slot "expand" .never (list Expansion.decode) (·.expand) fun v s => { s with expand := v }]
  start := {}
  finish := fun s => do
    pure { name := ← s.name, id := s.id.join, typeName := ← s.typeName,
           pluralTypeName := ← s.pluralTypeName, read := ← s.read, create := ← s.create,
           update := ← s.update, expand := ← s.expand }

def Bundle.decode : Decoder Bundle := Bundle.record.decode

def Schema.record : Decode.Record (Option (List Bundle)) Schema where
  name := "CompiledSchema"
  slots := [slot "collections" .never (list Bundle.decode) id fun v _ => some v]
  start := none
  finish := fun s => s.map Schema.mk

def Schema.decode : Decoder Schema := Schema.record.decode

/-- The schema of a text. -/
def Schema.ofText (s : String) : Except DecodeError Schema := Decode.ofText Schema.decode s

end StoreClient
