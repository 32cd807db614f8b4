/-
# How the C++ side classifies a type, against the schema side

`generator/src/protobuf_generator.cpp`: `normalize_type`,
`is_primitive_type`, `is_simple_protobuf_type`, `is_scalar_vector_type`,
`is_scalar_map_type` and `is_enum_type` (lines 1481-1727), the branch the
four method serialisers take on them (`write_proxy_protobuf_method`, lines
1819-1890, and the same chain in the proxy deserializer and the two stub
functions), and the branch `write_struct_protobuf_cpp` takes for a struct
field (lines 2667-2765, with `extract_template_inner_type`, `is_std_vector`
and `is_std_map`, lines 2463-2493).

The schema side writes `cpp_type_to_proto_type` of the same type.  The kind of
field each side assumes is `FieldKind`: the schema's by the text of the proto
type (`protoFieldKind`), the C++ side's by the branch it emits
(`MethodMarshal.kind`, `StructMarshal.kind`).  The two are written
separately and part on particular spellings (`methodMarshal_counterexample`).
Where they agree and proto3 accepts the field (`fieldAccepted`), the emitted
code compiles against the schema's message; the round trips of the struct and
method serialisers assume it.
-/

import Canopy.Protobuf.Projection
import Canopy.Protobuf.Imports

namespace Canopy
namespace Protobuf

/-- `s.find(pat) != npos`. -/
def containsSub (pat s : List Char) : Bool :=
  (findSub pat s).isSome

/-- Popping the characters `p` holds off the back of a text. -/
def dropTrailing (p : Char → Bool) (s : List Char) : List Char :=
  (s.reverse.dropWhile p).reverse

/-- The loop of `normalize_type` that erases the first `const ` until there is
none; each pass erases six characters, so the length of the text is fuel
enough. -/
def eraseConsts : Nat → List Char → List Char
  | 0, s => s
  | fuel + 1, s =>
    match findSub "const ".toList s with
    | some pos => eraseConsts fuel (s.take pos ++ s.drop (pos + 6))
    | none => s

/-- `normalize_type`: every `const ` erased, trailing `&`, `*` and spaces
popped, leading spaces erased. -/
def normalizeType (typeStr : List Char) : List Char :=
  let cleanedType := eraseConsts typeStr.length typeStr
  let cleanedType := dropTrailing (fun c => c == '&' || c == '*' || c == ' ') cleanedType
  cleanedType.dropWhile (· == ' ')

/-- The set `is_primitive_type` looks types up in. -/
def primitives : List (List Char) :=
  ["int", "int8_t", "int16_t", "int32_t", "int64_t", "uint8_t", "uint16_t", "uint32_t",
   "uint64_t", "unsigned int", "signed int", "unsigned", "signed", "short", "unsigned short",
   "signed short", "long", "unsigned long", "signed long", "long long", "unsigned long long",
   "signed long long", "char", "unsigned char", "signed char", "wchar_t", "bool", "float",
   "double", "long double", "size_t", "ptrdiff_t", "error_code"].map String.toList

/-- `is_primitive_type`. -/
def isPrimitiveType (typeStr : List Char) : Bool :=
  let cleanedType := if "const ".toList.isPrefixOf typeStr then typeStr.drop 6 else typeStr
  let cleanedType := dropTrailing (fun c => c == '&' || c == '*' || c == ' ') cleanedType
  if '*' ∈ typeStr ∨ containsSub "rpc::shared_ptr".toList typeStr ∨
      containsSub "rpc::interface_descriptor".toList typeStr ∨
      containsSub "std::vector".toList typeStr ∨ containsSub "std::map".toList typeStr then false
  else decide (cleanedType ∈ primitives)

/-- A primitive, or `std::string`: the element and map types the C++ side
copies one by one. -/
def isScalarArg (t : List Char) : Bool :=
  isPrimitiveType t || t == "std::string".toList

/-- `type.substr(start, end - start)` with `end = type.rfind('>')`, when
`end > start`. -/
def innerBefore (start : Nat) (type : List Char) : Option (List Char) :=
  match rfindChar '>' type with
  | some e => if e > start then some ((type.drop start).take (e - start)) else none
  | none => none

/-- The map prefix `is_simple_protobuf_type` and `is_scalar_map_type` test for. -/
def mapPrefix (normType : List Char) : Option (List Char) :=
  (["std::map<", "std::unordered_map<", "std::flat_map<"].map String.toList).find?
    (·.isPrefixOf normType)

/-- The key and value the two map tests read: the text up to the first comma
with trailing spaces popped, and the text after it with leading spaces erased. -/
def mapScalarArgs (normType : List Char) : Option (List Char × List Char) :=
  (mapPrefix normType).bind fun pre =>
    (innerBefore pre.length normType).bind fun inner =>
      if ',' ∈ inner then
        some (dropTrailing (· == ' ') (inner.takeWhile (· != ',')),
          ((inner.dropWhile (· != ',')).drop 1).dropWhile (· == ' '))
      else none

/-- `is_simple_protobuf_type`. -/
def isSimpleProtobufType (typeStr : List Char) : Bool :=
  let normType := normalizeType typeStr
  if normType = "std::string".toList then true
  else if normType = "std::vector<uint8_t>".toList ∨ normType = "std::vector<unsignedchar>".toList
  then true
  else if "std::vector<".toList.isPrefixOf normType ∧
      (innerBefore 12 normType).any isScalarArg then true
  else if (mapScalarArgs normType).any fun kv => isScalarArg kv.1 && isScalarArg kv.2 then true
  else isPrimitiveType normType

/-- `is_scalar_vector_type`. -/
def isScalarVectorType (typeStr : List Char) : Bool :=
  let normType := normalizeType typeStr
  if ¬ "std::vector<".toList.isPrefixOf normType then false
  else if normType ∈ (["std::vector<uint8_t>", "std::vector<unsignedchar>", "std::vector<char>",
      "std::vector<signedchar>"].map String.toList) then false
  else (innerBefore 12 normType).any isScalarArg

/-- `is_scalar_map_type`. -/
def isScalarMapType (typeStr : List Char) : Bool :=
  (mapScalarArgs (normalizeType typeStr)).any fun kv => isScalarArg kv.1 && isScalarArg kv.2

/-- `is_enum_type`, `enumNames` being the names of the enums of the IDL tree. -/
def isEnumType (enumNames : List (List Char)) (typeStr : List Char) : Bool :=
  decide (normalizeType typeStr ∈ enumNames)

/-! ### The branches the emitted code takes -/

/-- The kinds of proto field: what the schema declares, and what the emitted
C++ assumes. -/
inductive FieldKind
  | bytes
  | repeatedScalar
  | repeatedMessage
  | map
  | scalar
  | enum
  | message
  deriving DecidableEq, Repr

/-- The kind of the field the schema declares with proto type `protoType`. -/
def protoFieldKind (enumNames : List (List Char)) (protoType : List Char) : FieldKind :=
  if protoType = "bytes".toList then .bytes
  else if "repeated ".toList.isPrefixOf protoType then
    if protoType.drop 9 ∈ protoScalars then .repeatedScalar else .repeatedMessage
  else if "map<".toList.isPrefixOf protoType then .map
  else if protoType ∈ protoScalars then .scalar
  else if protoType ∈ enumNames then .enum
  else .message

/-- The branch of the method serialisers. -/
inductive MethodMarshal
  | interface
  | pointer
  | bytes
  | scalarVector
  | scalarMap
  | plain
  | enumCast
  | nested
  deriving DecidableEq, Repr

/-- The branch `write_proxy_protobuf_method` (and the three other method
serialisers) takes for a parameter of type `paramType`. -/
def methodMarshal (enumNames : List (List Char)) (paramType : List Char) : MethodMarshal :=
  if containsSub "rpc::shared_ptr".toList paramType || containsSub "rpc::optimistic_ptr".toList paramType
      || containsSub "rpc::interface_descriptor".toList paramType then .interface
  else if '*' ∈ paramType then .pointer
  else if isSimpleProtobufType paramType then
    let normType := normalizeType paramType
    if normType = "std::vector<uint8_t>".toList ∨ normType = "std::vector<unsignedchar>".toList then .bytes
    else if isScalarVectorType paramType then .scalarVector
    else if isScalarMapType paramType then .scalarMap
    else .plain
  else if isEnumType enumNames paramType then .enumCast
  else .nested

/-- The field kind each branch assumes: the bytes helpers, the element loop,
the key/value loop, a plain `set_`, a `static_cast`, a message copied or
nested. -/
def MethodMarshal.kind : MethodMarshal → FieldKind
  | interface => .message
  | pointer => .scalar
  | bytes => .bytes
  | scalarVector => .repeatedScalar
  | scalarMap => .map
  | plain => .scalar
  | enumCast => .enum
  | nested => .message

/-- `extract_template_inner_type`: the text between the first `<` and the last
`>`, trimmed of spaces. -/
def extractTemplateInnerType (typeStr : List Char) : List Char :=
  match typeStr.indexOf? '<', rfindChar '>' typeStr with
  | some start, some e =>
    if e ≤ start then [] else trimWhitespace ((typeStr.drop (start + 1)).take (e - start - 1))
  | _, _ => []

/-- `extract_map_types`: the two sides of the first comma outside brackets
between the first `<` and the last `>`, each trimmed of spaces unless it is
all spaces. -/
def extractMapTypes (typeStr : List Char) : List Char × List Char :=
  let trim := fun s : List Char => if s.all (· == ' ') then s else trimWhitespace s
  match typeStr.indexOf? '<', rfindChar '>' typeStr with
  | some start, some e =>
    if e ≤ start then ([], [])
    else match splitAtTopComma 0 ((typeStr.drop (start + 1)).take (e - start - 1)) with
      | some (keyType, valueType) => (trim keyType, trim valueType)
      | none => ([], [])
  | _, _ => ([], [])

/-- The branch of `write_struct_protobuf_cpp` for a field. -/
inductive StructMarshal
  | plain
  | bytes
  | scalarVector
  | structVector
  | scalarMap
  | structMap
  | unsupported
  deriving DecidableEq, Repr

/-- The branch `write_struct_protobuf_cpp` takes for a field of type
`fieldType`. -/
def structMarshal (fieldType : List Char) : StructMarshal :=
  if isScalarArg fieldType then .plain
  else if fieldType = "std::vector<uint8_t>".toList ∨ fieldType = "std::vector<char>".toList then .bytes
  else if "std::vector<".toList.isPrefixOf fieldType then
    if isScalarArg (extractTemplateInnerType fieldType) then .scalarVector else .structVector
  else if "std::map<".toList.isPrefixOf fieldType then
    if isScalarArg (extractMapTypes fieldType).2 then .scalarMap else .structMap
  else .unsupported

/-- The field kind each struct branch assumes; the fallback emits no code. -/
def StructMarshal.kind : StructMarshal → Option FieldKind
  | plain => some .scalar
  | bytes => some .bytes
  | scalarVector => some .repeatedScalar
  | structVector => some .repeatedMessage
  | scalarMap => some .map
  | structMap => some .map
  | unsupported => none

/-- The schema's proto type of a method parameter or struct field that is not
an interface. -/
def schemaFieldType (t : List Char) : List Char :=
  let protoType := cppTypeToProtoType t
  if containsSub "::".toList protoType then sanitizeTypeName protoType else protoType

/-- The type `write_message_definition` gives a struct member of type
`fieldType`: `cpp_type_to_proto_type`, with `::` made `.` in a qualified name. -/
def messageFieldType (fieldType : List Char) : List Char :=
  let protoType := cppTypeToProtoType fieldType
  if containsSub "::".toList protoType then
    if "repeated ".toList.isPrefixOf protoType then "repeated ".toList ++ sanitizeTypeName (protoType.drop 9)
    else if "map<".toList.isPrefixOf protoType then replaceColons protoType
    else sanitizeTypeName protoType
  else protoType

/-- proto3 accepts the field the schema declares with type `protoType` as one of
the kind `k` the emitted C++ assumes: the kinds agree, and a map is keyed by an
integral, `bool` or `string` type and holds a scalar. -/
def fieldAccepted (enumNames : List (List Char)) (k : FieldKind) (protoType : List Char) : Bool :=
  if k = .map then
    protoKeyScalars.any fun key => protoScalars.any fun val =>
      protoType == "map<".toList ++ key ++ ", ".toList ++ val ++ ['>']
  else protoFieldKind enumNames protoType == k

/-- `std::vector<char>` is `bytes` in the schema and a plain `set_` in the
method serialisers; `std::vector<unsigned char>` is `bytes` in the schema and an
element loop in the method and struct serialisers; `ssize_t` is `int64` in the
schema and a nested message in the method serialisers. -/
theorem methodMarshal_counterexample :
    schemaFieldType "std::vector<char>".toList = "bytes".toList ∧
    methodMarshal [] "std::vector<char>".toList = .plain ∧
    schemaFieldType "std::vector<unsigned char>".toList = "bytes".toList ∧
    methodMarshal [] "std::vector<unsigned char>".toList = .scalarVector ∧
    structMarshal "std::vector<unsigned char>".toList = .scalarVector ∧
    schemaFieldType "ssize_t".toList = "int64".toList ∧
    methodMarshal [] "ssize_t".toList = .nested := by
  decide

end Protobuf
end Canopy
