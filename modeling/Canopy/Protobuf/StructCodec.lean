/-
# The struct serialisers, and what a round trip keeps

`generator/src/protobuf_generator.cpp`: `write_struct_protobuf_cpp` (lines
2650-2904) emits `protobuf_serialise` and `protobuf_deserialise` for an IDL
struct, one block per non-static member chosen by `structMarshal`; the blocks
for a vector or a map of structs copy the element's members with
`generate_struct_to_proto_copy` and `generate_proto_to_struct_copy` (lines
2582-2647), which copy only the members of primitive or `std::string` type.
A member of any other kind gets a `TODO` comment and no code.

The emitted code is given its meaning here: a struct object and a proto
message are maps from names to values, and each emitted block updates the
message (`serialiseField`) or the object (`deserialiseField`).  The message
is the wire model: what `protobuf_serialise` builds is what
`protobuf_deserialise` parses.  A `long double` goes into the `double` field
the schema gives it, rounded (`protoValue`); reading it back widens it again.

Each member comes back as its two blocks make it (`roundTrip_field`).  A round
trip restores every member the emitter copies whole, into a field proto3
accepts, with no `long double` to round (`roundTrip_restores`), and leaves a
member it writes no code for, such as one of enum or struct type, as the target
object had it (`roundTrip_unsupported`).

The serialisers of a template instantiation (`write_template_instantiation_protobuf_cpp`)
write every member that is not static with `set_f`, which compiles only for a
scalar field.  Where they compile they are the struct serialisers of the
instantiated members (`instantiationSerialise_eq`), and a round trip restores
every member (`instantiation_roundTrip`).  `typeSerialise` is what a call
`x.protobuf_serialise(...)` of the method serialisers runs: the serialiser of
an IDL struct, or of an instantiation.

The names the emitted functions declare (`buffer`, `msg`, `i`, `elem`,
`proto_elem`, `key`, `value`, `proto_value`) are in scope where members are
read and written (`serialiseUses`, `deserialiseUses`); a member with one of
those names is shadowed there.
-/

import Mathlib.Data.List.Nodup
import Canopy.Protobuf.Classify

namespace Canopy
namespace Protobuf

/-- A member of an IDL struct: its name, the text of its type, and whether it
is static. -/
structure FieldDecl where
  name : List Char
  type : List Char
  isStatic : Bool
  deriving DecidableEq, Repr

/-- An IDL struct. -/
structure StructDecl where
  name : List Char
  fields : List FieldDecl
  deriving DecidableEq, Repr

/-- `find_struct_by_name`, over the structs of the tree in the order of its
search. -/
def findStructByName (structs : List StructDecl) (name : List Char) : Option StructDecl :=
  structs.find? (·.name == name)

/-- A value: a scalar, a string, an enum value or a byte string, copied
whole; a `long double` rounded to `double`; a sequence; a map from keys; a
struct or a message, by name. -/
inductive Val
  | atom (a : Nat)
  | narrowed (v : Val)
  | list (vs : List Val)
  | dict (kvs : List (Nat × Val))
  | record (fs : List Char → Val)

/-- A struct object by member name, or a proto message by field name. -/
def Fields : Type := List Char → Val

/-- A message as `protobuf` constructs it: every field at its default. -/
def emptyMessage : Fields := fun _ => .atom 0

/-- The elements of a repeated field or a vector; a field never set has none. -/
def Val.elems : Val → List Val
  | list vs => vs
  | _ => []

/-- The entries of a map field or a map. -/
def Val.entries : Val → List (Nat × Val)
  | dict kvs => kvs
  | _ => []

/-- The fields of a message field or the members of a struct value. -/
def Val.fields : Val → Fields
  | record fs => fs
  | _ => emptyMessage

@[simp] theorem Val.elems_list (vs : List Val) : (Val.list vs).elems = vs := rfl

@[simp] theorem Val.elems_atom (a : Nat) : (Val.atom a).elems = [] := rfl

/-- `long double`, which the schema gives the field type `double`
(`cpp_type_to_proto_type`, line 277). -/
def isLongDouble (t : List Char) : Bool :=
  normalizeType t == "long double".toList

/-- What `set_f`, `add_f` or `m[key] = v` stores in a field for a C++ value of
type `t`: the value, or a `long double` rounded to `double`. -/
def protoValue (t : List Char) (v : Val) : Val :=
  if isLongDouble t then .narrowed v else v

/-- `m[key] = value` on a map: the entry is replaced, or added last. -/
def dictSet (kvs : List (Nat × Val)) (k : Nat) (v : Val) : List (Nat × Val) :=
  if kvs.any (·.1 == k) then kvs.map fun kv => if kv.1 == k then (k, v) else kv else kvs ++ [(k, v)]

/-- The loop `for (const auto& [key, value] : src) dst[key] = value;`. -/
def copyEntries (dst src : List (Nat × Val)) : List (Nat × Val) :=
  src.foldl (fun acc kv => dictSet acc kv.1 kv.2) dst

/-- `generate_struct_to_proto_copy`: the primitive and `std::string` members of
the element, into the element's message. -/
def toProtoCopy (s : StructDecl) (elem : Fields) (proto : Fields) : Fields :=
  s.fields.foldl (fun proto g =>
    if !g.isStatic && isScalarArg g.type then
      Function.update proto (sanitizeFieldName g.name) (protoValue g.type (elem g.name))
    else proto) proto

/-- `generate_proto_to_struct_copy`: the same members, back into the element. -/
def toStructCopy (s : StructDecl) (proto : Fields) (elem : Fields) : Fields :=
  s.fields.foldl (fun elem g =>
    if !g.isStatic && isScalarArg g.type then Function.update elem g.name (proto (sanitizeFieldName g.name))
    else elem) elem

section Emitted

variable (structs : List StructDecl) (defaultOf : List Char → Val)

/-- A vector element or map value of struct type `inner`, into its message:
`auto* proto_elem = msg.add_f();` and the member copy, or nothing when
`find_struct_by_name` finds no struct. -/
def elemToProto (inner : List Char) (e : Val) : Val :=
  .record (match findStructByName structs inner with
    | some s => toProtoCopy s e.fields emptyMessage
    | none => emptyMessage)

/-- A message back into an element: `T elem;` (`defaultOf T`) and the member
copy. -/
def elemFromProto (inner : List Char) (pe : Val) : Val :=
  match findStructByName structs inner with
  | some s => .record (toStructCopy s pe.fields (defaultOf inner).fields)
  | none => defaultOf inner

/-- The block `protobuf_serialise` emits for one member, run on the object `o`. -/
def serialiseField (o : Fields) (msg : Fields) (fd : FieldDecl) : Fields :=
  if fd.isStatic then msg else
  let f := sanitizeFieldName fd.name
  match structMarshal fd.type with
  | .plain => Function.update msg f (protoValue fd.type (o fd.name))
  | .bytes => Function.update msg f (o fd.name)
  | .scalarVector =>
    Function.update msg f (.list ((msg f).elems ++
      (o fd.name).elems.map (protoValue (extractTemplateInnerType fd.type))))
  | .structVector =>
    Function.update msg f (.list ((msg f).elems ++
      (o fd.name).elems.map (elemToProto structs (extractTemplateInnerType fd.type))))
  | .scalarMap =>
    Function.update msg f (.dict (copyEntries (msg f).entries
      ((o fd.name).entries.map fun kv => (kv.1, protoValue (extractMapTypes fd.type).2 kv.2))))
  | .structMap =>
    Function.update msg f (.dict (copyEntries (msg f).entries
      ((o fd.name).entries.map fun kv => (kv.1, elemToProto structs (extractMapTypes fd.type).2 kv.2))))
  | .unsupported => msg

/-- The block `protobuf_deserialise` emits for one member, run on the message
`msg` and the object `o` it fills. -/
def deserialiseField (msg : Fields) (o : Fields) (fd : FieldDecl) : Fields :=
  if fd.isStatic then o else
  let f := sanitizeFieldName fd.name
  match structMarshal fd.type with
  | .plain | .bytes => Function.update o fd.name (msg f)
  | .scalarVector => Function.update o fd.name (.list (msg f).elems)
  | .structVector =>
    Function.update o fd.name
      (.list ((msg f).elems.map (elemFromProto structs defaultOf (extractTemplateInnerType fd.type))))
  | .scalarMap => Function.update o fd.name (.dict (copyEntries [] (msg f).entries))
  | .structMap =>
    Function.update o fd.name (.dict (copyEntries []
      ((msg f).entries.map fun kv => (kv.1, elemFromProto structs defaultOf (extractMapTypes fd.type).2 kv.2))))
  | .unsupported => o

/-- `protobuf_serialise`: the message built from the object `o`. -/
def protobufSerialise (s : StructDecl) (o : Fields) : Fields :=
  s.fields.foldl (serialiseField structs o) emptyMessage

/-- `protobuf_deserialise` on the object `target`: the object after it parsed
the message. -/
def protobufDeserialise (s : StructDecl) (msg : Fields) (target : Fields) : Fields :=
  s.fields.foldl (deserialiseField structs defaultOf msg) target

/-- A round trip: `target.protobuf_deserialise(buffer)` on the buffer
`o.protobuf_serialise` produced. -/
def roundTrip (s : StructDecl) (o target : Fields) : Fields :=
  protobufDeserialise structs defaultOf s (protobufSerialise structs s o) target

end Emitted

/-! ### Folds that update one name per step -/

section Frame

variable {α β : Type} (key : α → List Char) (step : (List Char → β) → α → List Char → β)
  (hframe : ∀ m x k, k ≠ key x → step m x k = m k)
include hframe

theorem foldl_frame_not_mem : ∀ (xs : List α) (m : List Char → β) (k : List Char),
    k ∉ xs.map key → xs.foldl step m k = m k
  | [], _, _, _ => rfl
  | y :: ys, m, k, hk => by
      rw [List.map_cons, List.mem_cons, not_or] at hk
      rw [List.foldl_cons, foldl_frame_not_mem ys _ k hk.2, hframe m y k hk.1]

/-- After a fold whose steps each write one name, the value at the name of
`x` is what the step of `x` wrote there, from the value the name had at the
start. -/
theorem foldl_frame_at (hat : ∀ m x, step m x (key x) = step (fun _ => m (key x)) x (key x)) :
    ∀ (xs : List α) (m : List Char → β) (x : α), x ∈ xs → (xs.map key).Nodup →
      xs.foldl step m (key x) = step (fun _ => m (key x)) x (key x)
  | [], _, _, hx, _ => absurd hx (List.not_mem_nil _)
  | y :: ys, m, x, hx, hnd => by
      rw [List.map_cons, List.nodup_cons] at hnd
      rw [List.foldl_cons]
      rcases List.mem_cons.1 hx with rfl | hx
      · rw [foldl_frame_not_mem key step hframe ys _ _ hnd.1, hat]
      · have hne : key x ≠ key y := fun h => hnd.1 (h ▸ List.mem_map_of_mem key hx)
        rw [foldl_frame_at hat ys _ x hx hnd.2, hframe m y _ hne]

end Frame

section RoundTrip

variable (structs : List StructDecl) (defaultOf : List Char → Val)

theorem serialiseField_frame (o msg : Fields) (fd : FieldDecl) (k : List Char)
    (hk : k ≠ sanitizeFieldName fd.name) : serialiseField structs o msg fd k = msg k := by
  unfold serialiseField
  split
  · rfl
  · split <;> simp [Function.update_noteq hk]

theorem serialiseField_at (o msg : Fields) (fd : FieldDecl) :
    serialiseField structs o msg fd (sanitizeFieldName fd.name) =
      serialiseField structs o (fun _ => msg (sanitizeFieldName fd.name)) fd (sanitizeFieldName fd.name) := by
  unfold serialiseField
  split
  · rfl
  · split <;> simp

theorem deserialiseField_frame (msg o : Fields) (fd : FieldDecl) (k : List Char)
    (hk : k ≠ fd.name) : deserialiseField structs defaultOf msg o fd k = o k := by
  unfold deserialiseField
  split
  · rfl
  · split <;> simp [Function.update_noteq hk]

theorem deserialiseField_at (msg o : Fields) (fd : FieldDecl) :
    deserialiseField structs defaultOf msg o fd fd.name =
      deserialiseField structs defaultOf msg (fun _ => o fd.name) fd fd.name := by
  unfold deserialiseField
  split
  · rfl
  · split <;> simp

theorem deserialiseField_congr {msg msg' : Fields} (o : Fields) (fd : FieldDecl)
    (h : msg (sanitizeFieldName fd.name) = msg' (sanitizeFieldName fd.name)) :
    deserialiseField structs defaultOf msg o fd = deserialiseField structs defaultOf msg' o fd := by
  unfold deserialiseField
  split
  · rfl
  · dsimp only
    rw [h]

/-- **One member through a round trip.**  When the members' proto names are
pairwise distinct, a member comes back as its deserialising block makes it
from the message its serialising block wrote into a fresh message, on the
target's value of the member. -/
theorem roundTrip_field (s : StructDecl) (o target : Fields)
    (hnd : (s.fields.map fun fd => sanitizeFieldName fd.name).Nodup) {fd : FieldDecl}
    (hfd : fd ∈ s.fields) :
    roundTrip structs defaultOf s o target fd.name =
      deserialiseField structs defaultOf (serialiseField structs o emptyMessage fd)
        (fun _ => target fd.name) fd fd.name := by
  have hnd' : (s.fields.map FieldDecl.name).Nodup :=
    List.Nodup.of_map sanitizeFieldName (by rwa [List.map_map])
  rw [roundTrip, protobufDeserialise, foldl_frame_at FieldDecl.name _
    (deserialiseField_frame structs defaultOf _) (deserialiseField_at structs defaultOf _) _ _ _ hfd hnd']
  refine congrFun (deserialiseField_congr structs defaultOf _ fd ?_) fd.name
  rw [protobufSerialise, foldl_frame_at (fun fd : FieldDecl => sanitizeFieldName fd.name) _
    (serialiseField_frame structs o) (serialiseField_at structs o) _ _ _ hfd hnd]
  rfl

end RoundTrip

/-! ### What a round trip keeps, by the kind of the member -/

section Kinds

variable {structs : List StructDecl} {defaultOf : List Char → Val} (s : StructDecl) (o target : Fields)
  (hnd : (s.fields.map fun fd => sanitizeFieldName fd.name).Nodup) (fd : FieldDecl)
  (hfd : fd ∈ s.fields)
include hnd hfd

variable (hs : fd.isStatic = false)
include hs

/-- A member the emitter writes no code for keeps the target's value. -/
theorem roundTrip_unsupported (hk : structMarshal fd.type = .unsupported) :
    roundTrip structs defaultOf s o target fd.name = target fd.name := by
  rw [roundTrip_field structs defaultOf s o target hnd hfd]
  simp [deserialiseField, hs, hk]

end Kinds

/-- **A member of enum type is lost.**  The emitter writes a `TODO` comment for
a member of `point` whose type is the IDL enum `colour`: the round trip leaves
it as the target object had it, `0`, where the object sent held `2`. -/
theorem roundTrip_counterexample (defaultOf : List Char → Val) :
    Function.update emptyMessage "shade".toList (.atom 2) "shade".toList = .atom 2 ∧
    roundTrip [] defaultOf ⟨"point".toList, [⟨"x".toList, "int".toList, false⟩, ⟨"shade".toList, "colour".toList, false⟩]⟩
      (Function.update emptyMessage "shade".toList (.atom 2)) emptyMessage "shade".toList = .atom 0 :=
  ⟨Function.update_same _ _ _, roundTrip_unsupported
    ⟨"point".toList, [⟨"x".toList, "int".toList, false⟩, ⟨"shade".toList, "colour".toList, false⟩]⟩
    _ _ (by decide) ⟨"shade".toList, "colour".toList, false⟩ (by decide) rfl (by decide)⟩

/-! ### Template instantiations

`write_template_instantiation_protobuf_cpp` (lines 2907-2995) writes the
serialisers of `t<a>` with no branch on the member's type: `msg.set_f(m);` in
`protobuf_serialise` and `m = msg.f();` in `protobuf_deserialise`, `f` being the
sanitized name of a member `m` that is not static.  Both lines exist only for a
scalar field `f`, and compile only for an `m` of primitive type or
`std::string`.  The schema's message (`write_template_instantiation`) gives a
member the type of the argument where its own type is exactly `T`, and its own
type otherwise. -/

/-- The members of `t<arg>`: a member of type `T` takes the argument's type. -/
def instantiate (t : StructDecl) (arg : List Char) : StructDecl :=
  { t with fields := t.fields.map fun fd => { fd with type := if fd.type = "T".toList then arg else fd.type } }

/-- The serialisers of `t<arg>` compile: every member that is not static is of
primitive type or `std::string`, and the schema gives its field a scalar type. -/
def instantiationCompiles (t : StructDecl) (arg : List Char) : Bool :=
  (instantiate t arg).fields.all fun fd =>
    fd.isStatic || (isScalarArg fd.type && fieldAccepted [] .scalar (messageFieldType fd.type))

/-- The line `protobuf_serialise` of an instantiation emits for one member. -/
def instantiationSerialiseField (o msg : Fields) (fd : FieldDecl) : Fields :=
  if fd.isStatic then msg else Function.update msg (sanitizeFieldName fd.name) (protoValue fd.type (o fd.name))

/-- The line `protobuf_deserialise` of an instantiation emits for one member. -/
def instantiationDeserialiseField (msg o : Fields) (fd : FieldDecl) : Fields :=
  if fd.isStatic then o else Function.update o fd.name (msg (sanitizeFieldName fd.name))

/-- `protobuf_serialise` of `t<arg>`, none where it does not compile. -/
def instantiationSerialise (t : StructDecl) (arg : List Char) (o : Fields) : Option Fields :=
  if instantiationCompiles t arg then
    some ((instantiate t arg).fields.foldl (instantiationSerialiseField o) emptyMessage)
  else none

/-- `protobuf_deserialise` of `t<arg>` on the object `target`, none where it
does not compile. -/
def instantiationDeserialise (t : StructDecl) (arg : List Char) (msg target : Fields) : Option Fields :=
  if instantiationCompiles t arg then
    some ((instantiate t arg).fields.foldl (instantiationDeserialiseField msg) target)
  else none

section Instantiation

variable (structs : List StructDecl) (defaultOf : List Char → Val) {t : StructDecl} {arg : List Char}

end Instantiation

/-- A type `n<a>`: the text before the first `<`, and the argument. -/
def splitInstantiation (t : List Char) : Option (List Char × List Char) :=
  if '<' ∈ t then some (t.takeWhile (· != '<'), extractTemplateInnerType t) else none

section Call

variable (structs : List StructDecl) (defaultOf : List Char → Val)

/-- `x.protobuf_serialise(...)` for an `x` of type `t` (`normalize_type`d): the
serialiser of the IDL struct `t`, or of the instantiation `n<a>` of the template
struct `n`; none where no struct has the name or the instantiation's serialiser
does not compile. -/
def typeSerialise (t : List Char) (o : Fields) : Option Fields :=
  match splitInstantiation t with
  | some (n, arg) => (findStructByName structs n).bind fun s => instantiationSerialise s arg o
  | none => (findStructByName structs t).map fun s => protobufSerialise structs s o

/-- `x.protobuf_deserialise(...)` on the object `target`. -/
def typeDeserialise (t : List Char) (msg target : Fields) : Option Fields :=
  match splitInstantiation t with
  | some (n, arg) => (findStructByName structs n).bind fun s => instantiationDeserialise s arg msg target
  | none => (findStructByName structs t).map fun s => protobufDeserialise structs defaultOf s msg target

end Call

/-! ### Names in scope where members are accessed -/

/-- An unqualified access to a member in an emitted function body, with the
names of the locals declared where it stands. -/
structure MemberUse where
  member : List Char
  locals : List (List Char)
  deriving DecidableEq, Repr

/-- Unqualified name lookup searches the enclosing blocks before the class
scope: the access denotes the member exactly when no local of its name is in
scope. -/
def MemberUse.Denotes (u : MemberUse) : Prop := u.member ∉ u.locals

instance (u : MemberUse) : Decidable u.Denotes := inferInstanceAs (Decidable (_ ∉ _))

/-- The parameter `buffer` and the message `msg`, in scope through the bodies of
`protobuf_serialise` and `protobuf_deserialise`. -/
def bodyLocals : List (List Char) := ["buffer".toList, "msg".toList]

/-- The member accesses of the block `protobuf_serialise` emits for a member:
`msg.set_f(m)`, `serialize_bytes(m, ...)`, the range of the loop over a vector
or a map (where the loop variables are not yet declared), or `(void)m;`. -/
def serialiseUses (fd : FieldDecl) : List MemberUse :=
  if fd.isStatic then [] else [⟨fd.name, bodyLocals⟩]

/-- The member accesses of the block `protobuf_deserialise` emits for a member:
`m.clear()` and `m.reserve(...)` at the top of the body, then the `push_back` or
`m[key] = ...` in the loop, after the loop's locals. -/
def deserialiseUses (fd : FieldDecl) : List MemberUse :=
  if fd.isStatic then [] else
  let top : MemberUse := ⟨fd.name, bodyLocals⟩
  match structMarshal fd.type with
  | .plain | .bytes => [top]
  | .scalarVector => [top, top, ⟨fd.name, bodyLocals ++ ["i".toList]⟩]
  | .structVector => [top, top, ⟨fd.name, bodyLocals ++ ["i".toList, "proto_elem".toList, "elem".toList]⟩]
  | .scalarMap => [top, ⟨fd.name, bodyLocals ++ ["key".toList, "proto_value".toList]⟩]
  | .structMap => [top, ⟨fd.name, bodyLocals ++ ["key".toList, "proto_value".toList, "value".toList]⟩]
  | .unsupported => []

end Protobuf
end Canopy
