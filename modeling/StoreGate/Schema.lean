import StoreGate.Json.Decode

/-!
# Table schemas

The fields of a table in the engine's order. `TableSchema.field?` finds the first field of a name.
-/

namespace StoreGate

structure FieldSchema where
  name : String
  /-- The engine's text for the type. -/
  dataType : String
  nullable : Bool
  comment : String
deriving DecidableEq, Repr, Inhabited

namespace FieldSchema

def json (f : FieldSchema) : Json :=
  Json.object ([("name", .str f.name), ("data_type", .str f.dataType),
    ("nullable", .bool f.nullable)] ++
    if f.comment.isEmpty then [] else [("comment", .str f.comment)])

def decode : Decoder FieldSchema :=
  Decode.record default [
    Decode.field ["name"] .required Decode.text fun v f => { f with name := v },
    Decode.field ["data_type"] .required Decode.text fun v f => { f with dataType := v },
    Decode.field ["nullable"] .required Decode.bool fun v f => { f with nullable := v },
    Decode.field ["comment"] .defaulted Decode.text fun v f => { f with comment := v }]

end FieldSchema

structure TableSchema where
  database : String
  table : String
  fields : List FieldSchema
deriving DecidableEq, Repr, Inhabited

namespace TableSchema

def field? (s : TableSchema) (name : String) : Option FieldSchema :=
  s.fields.find? fun f => decide (f.name = name)

def json (s : TableSchema) : Json :=
  Json.object [("database", .str s.database), ("table", .str s.table),
    ("fields", .arr (s.fields.map FieldSchema.json))]

def decode : Decoder TableSchema :=
  Decode.record default [
    Decode.field ["database"] .required Decode.text fun v s => { s with database := v },
    Decode.field ["table"] .required Decode.text fun v s => { s with table := v },
    Decode.field ["fields"] .required (Decode.list FieldSchema.decode)
      fun v s => { s with fields := v }]

end TableSchema

end StoreGate
