/-
# The method serialisers, and what a call's round trip keeps

`generator/src/protobuf_generator.cpp`: for each method of an interface,
`write_proxy_protobuf_method` (lines 1729-1902) emits the proxy's
`proxy_serialiser`, which builds `<Interface>_<method>Request` from the
parameters sent; `write_stub_protobuf_deserializer` (lines 2078-2259) emits the
stub's `stub_deserialiser`, which reads them back; `write_stub_protobuf_serializer`
(lines 2262-2442) and `write_proxy_protobuf_deserializer` (lines 1905-2075) do
the same for the `[out]` parameters and `<Interface>_<method>Response`.  The
four bodies handle one parameter alike, by the branch `methodMarshal` names:

| branch | written into the message | read back |
| --- | --- | --- |
| `interface` | `destination_zone_id`, `object_id` | the same two members |
| `pointer`, `bytes`, `enumCast` | the value | the value |
| `plain` | `set_f`, a `long double` rounded | the value |
| `scalarVector` | `add_f` per element, a `long double` rounded | `clear`, `push_back` per element |
| `scalarMap` | `(*__map)[__k] = __v`, a `long double` rounded | `clear`, `x[__k] = __v` |
| `nested` | `protobuf_serialise` | `protobuf_deserialise` |

The message is the wire model, as for structs.  A parameter sent comes back as
its branch makes it (`inRoundTrip_param`): whole for the branches that copy a
value into a field proto3 accepts, but for a `long double`
(`inRoundTrip_restores`), and a struct or a template instantiation with the
members its serialisers copy whole (`inRoundTrip_struct`).  The stub serialiser
ends with `__response.set_result(rpc::error::OK())`, so an `[out]` parameter
comes back the same way unless it is named `result`; then the caller reads the
code `OK` (`outRoundTrip_result`), and the response message declares `result`
twice.

The bodies declare locals of their own (`__request`, `proto_<name>`, `__map`,
`param_buffer`, ...) beside the parameters (`bodyUses`); a parameter whose name
starts with `__` or `proto_`, or is `param_buffer`, can be shadowed by one, and
no other can (`methodUses_denote_of_fresh`).
-/

import Canopy.Protobuf.StructCodec

namespace Canopy
namespace Protobuf

/-- A method parameter: its name, its type, and its `[in]` and `[out]`
attributes. -/
structure Param where
  name : List Char
  type : List Char
  isIn : Bool
  isOut : Bool
  deriving DecidableEq, Repr

/-- The test of the request side, `is_in_param(p) || (!is_in_param(p) &&
!is_out_param(p))`: a parameter with neither attribute is sent as `[in]`. -/
def Param.isSent (p : Param) : Bool := p.isIn || (!p.isIn && !p.isOut)

/-- The parameters the request carries, in order. -/
def inParams (ps : List Param) : List Param := ps.filter Param.isSent

/-- The parameters the response carries, in order. -/
def outParams (ps : List Param) : List Param := ps.filter Param.isOut

/-- The name of the field the response carries the return code in. -/
def resultName : List Char := "result".toList

/-- The members of an `rpc::interface_descriptor` the emitted code copies. -/
def destinationZoneId : List Char := "destination_zone_id".toList

def objectId : List Char := "object_id".toList

/-- `proto_x->mutable_destination_zone_id()->set_id(x.destination_zone_id.get_val())`
and the same for `object_id`. -/
def descriptorToProto (d : Fields) : Fields :=
  Function.update (Function.update emptyMessage destinationZoneId (d destinationZoneId)) objectId (d objectId)

/-- `x.destination_zone_id = rpc::destination_zone{proto_x.destination_zone_id().id()}`
and the same for `object_id`, on the descriptor `d` the stub holds. -/
def descriptorFromProto (m : Fields) (d : Fields) : Fields :=
  Function.update (Function.update d destinationZoneId (m destinationZoneId)) objectId (m objectId)

section Emitted

variable (enumNames : List (List Char)) (structs : List StructDecl) (defaultOf : List Char → Val)

/-- The code the proxy serialiser (for an `[in]` parameter) or the stub
serialiser (for an `[out]` one) emits for the parameter `p`, run on the values
`args`.  A complex parameter calls `protobuf_serialise` of its type
(`typeSerialise`), `structs` being the IDL's structs, templates among them;
for a type with none, such as `std::vector<point>`, the call does not compile,
and nothing is written. -/
def writeParam (args msg : Fields) (p : Param) : Fields :=
  let v := args p.name
  match methodMarshal enumNames p.type with
  | .interface => Function.update msg p.name (.record (descriptorToProto v.fields))
  | .pointer | .bytes | .enumCast => Function.update msg p.name v
  | .plain => Function.update msg p.name (protoValue p.type v)
  | .scalarVector =>
    Function.update msg p.name (.list ((msg p.name).elems ++ v.elems.map (protoValue (extractTemplateInnerType p.type))))
  | .scalarMap =>
    Function.update msg p.name (.dict (copyEntries (msg p.name).entries
      (v.entries.map fun kv => (kv.1, protoValue (extractMapTypes p.type).2 kv.2))))
  | .nested =>
    match typeSerialise structs (normalizeType p.type) v.fields with
    | some m => Function.update msg p.name (.record m)
    | none => msg

/-- The code the stub deserialiser (for an `[in]` parameter) or the proxy
deserialiser (for an `[out]` one) emits for `p`, run on the message `msg` and
the values `args` it fills. -/
def readParam (msg args : Fields) (p : Param) : Fields :=
  let m := msg p.name
  match methodMarshal enumNames p.type with
  | .interface => Function.update args p.name (.record (descriptorFromProto m.fields (args p.name).fields))
  | .pointer | .bytes | .plain | .enumCast => Function.update args p.name m
  | .scalarVector => Function.update args p.name (.list m.elems)
  | .scalarMap => Function.update args p.name (.dict (copyEntries [] m.entries))
  | .nested =>
    match typeDeserialise structs defaultOf (normalizeType p.type) m.fields (args p.name).fields with
    | some o => Function.update args p.name (.record o)
    | none => args

/-- `stub_serialiser<protocol_buffers>`: the response built from the `[out]`
values, and `__response.set_result(rpc::error::OK())` last, `ok` being the code
`rpc::error::OK()` returns. -/
def stubSerialiser (ok : Val) (ps : List Param) (outs : Fields) : Fields :=
  Function.update ((outParams ps).foldl (writeParam enumNames structs outs) emptyMessage) resultName ok

/-- `proxy_deserialiser<protocol_buffers>`: the caller's `[out]` parameters after
it parsed the response, and the code it returns, `__response.result()`. -/
def proxyDeserialiser (ps : List Param) (response target : Fields) : Fields × Val :=
  ((outParams ps).foldl (readParam enumNames structs defaultOf response) target, response resultName)

/-- A call's `[out]` parameters and return code: the caller's after it parsed
what the stub sent. -/
def outRoundTrip (ok : Val) (ps : List Param) (outs target : Fields) : Fields × Val :=
  proxyDeserialiser enumNames structs defaultOf ps (stubSerialiser enumNames structs ok ps outs) target

end Emitted

/-! ### One parameter per step -/

section Steps

variable (enumNames : List (List Char)) (structs : List StructDecl) (defaultOf : List Char → Val)

theorem writeParam_frame (args msg : Fields) (p : Param) (k : List Char) (hk : k ≠ p.name) :
    writeParam enumNames structs args msg p k = msg k := by
  unfold writeParam
  cases methodMarshal enumNames p.type
  case nested => split <;> simp [Function.update_noteq hk]
  all_goals simp [Function.update_noteq hk]

theorem writeParam_at (args msg : Fields) (p : Param) :
    writeParam enumNames structs args msg p p.name =
      writeParam enumNames structs args (fun _ => msg p.name) p p.name := by
  unfold writeParam
  cases methodMarshal enumNames p.type
  case nested => split <;> simp
  all_goals simp

theorem readParam_frame (msg args : Fields) (p : Param) (k : List Char) (hk : k ≠ p.name) :
    readParam enumNames structs defaultOf msg args p k = args k := by
  unfold readParam
  cases methodMarshal enumNames p.type
  case nested => split <;> simp [Function.update_noteq hk]
  all_goals simp [Function.update_noteq hk]

theorem readParam_at (msg args : Fields) (p : Param) :
    readParam enumNames structs defaultOf msg args p p.name =
      readParam enumNames structs defaultOf msg (fun _ => args p.name) p p.name := by
  unfold readParam
  cases methodMarshal enumNames p.type
  case nested =>
    dsimp only
    cases typeDeserialise structs defaultOf (normalizeType p.type) (msg p.name).fields (args p.name).fields <;> simp
  all_goals simp

theorem readParam_congr {msg msg' : Fields} (args : Fields) (p : Param) (h : msg p.name = msg' p.name) :
    readParam enumNames structs defaultOf msg args p = readParam enumNames structs defaultOf msg' args p := by
  unfold readParam
  dsimp only
  rw [h]

/-- A fold of parameter steps, at one parameter's name. -/
theorem foldl_params_at {step : Fields → Param → Fields}
    (hframe : ∀ m p k, k ≠ p.name → step m p k = m k) (hat : ∀ m p, step m p p.name = step (fun _ => m p.name) p p.name)
    (ps : List Param) (m : Fields) {p : Param} (hp : p ∈ ps) (hnd : (ps.map Param.name).Nodup) :
    ps.foldl step m p.name = step (fun _ => m p.name) p p.name :=
  foldl_frame_at Param.name step hframe hat ps m p hp hnd

end Steps

/-! ### Round trips -/

section RoundTrip

variable {enumNames : List (List Char)} {structs : List StructDecl} {defaultOf : List Char → Val}

/-- The same for an `[out]` parameter, but for the `result` the stub writes
last. -/
theorem outRoundTrip_param (ok : Val) (ps : List Param) (outs target : Fields)
    (hnd : ((outParams ps).map Param.name).Nodup) {p : Param} (hp : p ∈ outParams ps) :
    (outRoundTrip enumNames structs defaultOf ok ps outs target).1 p.name =
      readParam enumNames structs defaultOf
        (Function.update (writeParam enumNames structs outs emptyMessage p) resultName ok)
        (fun _ => target p.name) p p.name := by
  rw [outRoundTrip, proxyDeserialiser]
  dsimp only
  rw [foldl_params_at (readParam_frame enumNames structs defaultOf _)
    (readParam_at enumNames structs defaultOf _) _ _ hp hnd]
  refine congrFun (readParam_congr enumNames structs defaultOf _ p ?_) p.name
  by_cases hr : p.name = resultName
  · rw [stubSerialiser, hr, Function.update_same, Function.update_same]
  · rw [stubSerialiser, Function.update_noteq hr, Function.update_noteq hr, foldl_params_at
      (writeParam_frame enumNames structs outs) (writeParam_at enumNames structs outs) _ _ hp hnd]
    rfl

/-- **An `[out]` parameter named `result`** is overwritten by
`set_result(rpc::error::OK())`: the caller reads the code `OK` in its place. -/
theorem outRoundTrip_result (ok : Val) (ps : List Param) (outs target : Fields)
    (hnd : ((outParams ps).map Param.name).Nodup) {p : Param} (hp : p ∈ outParams ps)
    (hn : p.name = resultName) (hk : methodMarshal enumNames p.type = .plain) :
    (outRoundTrip enumNames structs defaultOf ok ps outs target).1 p.name = ok := by
  rw [outRoundTrip_param ok ps outs target hnd hp]
  simp only [readParam, hk]
  rw [hn, Function.update_same, Function.update_same]

end RoundTrip

/-- **A lost `[out]` parameter.**  For `error_code get([out] int& result)`, the
caller's `result` is the code `OK`, `0` here, where the stub held `7`. -/
theorem outRoundTrip_counterexample (defaultOf : List Char → Val) :
    (outRoundTrip [] [] defaultOf (.atom 0) [⟨"result".toList, "int&".toList, false, true⟩]
      (Function.update emptyMessage "result".toList (.atom 7)) emptyMessage).1 "result".toList = .atom 0 :=
  outRoundTrip_result (p := ⟨"result".toList, "int&".toList, false, true⟩) (.atom 0) _ _ _
    (by decide) (by decide) rfl (by decide)

/-! ### The fields of the request and response messages -/

/-- The field names of `<Interface>_<method>Request`
(`write_single_interface_service`, lines 1318-1346): the sanitized names of the
parameters sent. -/
def requestFieldNames (ps : List Param) : List (List Char) :=
  (inParams ps).map fun p => sanitizeFieldName p.name

/-- The field names of `<Interface>_<method>Response` (lines 1349-1383): the
sanitized names of the `[out]` parameters, then `result` for a method whose
return type is not empty or `void`. -/
def responseFieldNames (returnType : List Char) (ps : List Param) : List (List Char) :=
  (outParams ps).map (fun p => sanitizeFieldName p.name) ++
    if !returnType.isEmpty && returnType != "void".toList then [resultName] else []

/-! ### Names in scope in the method bodies -/

section Scopes

variable (enumNames : List (List Char))

/-- A name the emitted method bodies declare: `__buffer`, `__rpc_data`,
`__request`, `__response`, `__elem`, `__map`, `__k`, `__v` and `__i` start with
`__`, `proto_<name>` and `proto_param` with `proto_`; and `param_buffer`. -/
def Reserved (n : List Char) : Prop :=
  "__".toList <+: n ∨ "proto_".toList <+: n ∨ n = "param_buffer".toList

instance (n : List Char) : Decidable (Reserved n) := inferInstanceAs (Decidable (_ ∨ _ ∨ _))

/-- The accesses to the parameters in a method body: for each parameter, one
access per entry of `useScopes`, each made with the locals the body has
declared so far and the entry's own; each parameter's block then declares
`declares p` for the rest of the body. -/
def bodyUses (useScopes : Param → List (List (List Char))) (declares : Param → List (List Char)) :
    List (List Char) → List Param → List MemberUse
  | _, [] => []
  | top, p :: ps =>
    (useScopes p).map (fun extra => ⟨p.name, top ++ extra⟩) ++ bodyUses useScopes declares (top ++ declares p) ps

/-- The accesses of a block that writes a parameter into the message:
`x.destination_zone_id` and `x.object_id` after `auto* proto_x`, the range of
the loop after `auto* __map`, `x.protobuf_serialise(param_buffer)` in its
block, or one access. -/
def writeScopes (p : Param) : List (List (List Char)) :=
  match methodMarshal enumNames p.type with
  | .interface => [["proto_".toList ++ p.name], ["proto_".toList ++ p.name]]
  | .scalarMap => [["__map".toList]]
  | .nested => [["param_buffer".toList]]
  | _ => [[]]

/-- What a writing block declares for the rest of the body: `auto* proto_x`
and `auto* __map` stand outside any block. -/
def writeDeclares (p : Param) : List (List Char) :=
  match methodMarshal enumNames p.type with
  | .interface => ["proto_".toList ++ p.name]
  | .scalarMap => ["__map".toList]
  | _ => []

/-- The accesses of a block that reads a parameter back: the two members
after `const auto& proto_x`, `x.clear()` and the `push_back` or `x[__k] = __v`
in the loop, `x.protobuf_deserialise(param_buffer)` in its block, or one
access. -/
def readScopes (p : Param) : List (List (List Char)) :=
  match methodMarshal enumNames p.type with
  | .interface => [["proto_".toList ++ p.name], ["proto_".toList ++ p.name]]
  | .scalarVector => [[], ["__i".toList]]
  | .scalarMap => [[], ["__k".toList, "__v".toList]]
  | .nested => [["param_buffer".toList, "proto_param".toList]]
  | _ => [[]]

/-- What a reading block declares for the rest of the body. -/
def readDeclares (p : Param) : List (List Char) :=
  match methodMarshal enumNames p.type with
  | .interface => ["proto_".toList ++ p.name]
  | _ => []

/-- The parameter accesses of `proxy_serialiser`, after `__buffer` and
`__request`. -/
def proxySerialiserUses (ps : List Param) : List MemberUse :=
  bodyUses (writeScopes enumNames) (writeDeclares enumNames) ["__buffer".toList, "__request".toList] (inParams ps)

/-- The parameter accesses of `stub_serialiser`. -/
def stubSerialiserUses (ps : List Param) : List MemberUse :=
  bodyUses (writeScopes enumNames) (writeDeclares enumNames) ["__buffer".toList, "__response".toList] (outParams ps)

/-- The parameter accesses of `stub_deserialiser`. -/
def stubDeserialiserUses (ps : List Param) : List MemberUse :=
  bodyUses (readScopes enumNames) (readDeclares enumNames) ["__rpc_data".toList, "__request".toList] (inParams ps)

/-- The parameter accesses of `proxy_deserialiser`. -/
def proxyDeserialiserUses (ps : List Param) : List MemberUse :=
  bodyUses (readScopes enumNames) (readDeclares enumNames) ["__rpc_data".toList, "__response".toList]
    (outParams ps)

/-- The names `proxy_serialiser` declares in its outermost block, parameters
first: C++ rejects the body when two of them are equal. -/
def proxySerialiserDeclarations (ps : List Param) : List (List Char) :=
  (inParams ps).map Param.name ++ ["__buffer".toList, "__request".toList] ++
    (inParams ps).flatMap (writeDeclares enumNames)

end Scopes

theorem bodyUses_denote {useScopes : Param → List (List (List Char))} {declares : Param → List (List Char)}
    (hdecl : ∀ q, ∀ n ∈ declares q, Reserved n) (hscope : ∀ q, ∀ e ∈ useScopes q, ∀ n ∈ e, Reserved n) :
    ∀ (top : List (List Char)) (ps : List Param), (∀ n ∈ top, Reserved n) → (∀ p ∈ ps, ¬ Reserved p.name) →
      ∀ u ∈ bodyUses useScopes declares top ps, u.Denotes
  | _, [], _, _, _, hu => absurd hu (List.not_mem_nil _)
  | top, p :: ps, htop, hfresh, u, hu => by
      rw [bodyUses, List.mem_append, List.mem_map] at hu
      rcases hu with ⟨e, he, rfl⟩ | hu
      · intro hmem
        rcases List.mem_append.1 hmem with h | h
        · exact hfresh p (List.mem_cons_self _ _) (htop _ h)
        · exact hfresh p (List.mem_cons_self _ _) (hscope p e he _ h)
      · refine bodyUses_denote hdecl hscope _ ps (fun n hn => ?_) (fun q hq => hfresh q (List.mem_cons_of_mem _ hq)) u hu
        rcases List.mem_append.1 hn with h | h
        · exact htop n h
        · exact hdecl p n h

/-- The names the method bodies declare in their inner blocks and for maps. -/
def blockLocals : List (List Char) :=
  ["__map", "__i", "__k", "__v", "param_buffer", "proto_param"].map String.toList

theorem reserved_of {n x : List Char} (h : n = "proto_".toList ++ x ∨ n ∈ blockLocals) : Reserved n := by
  rcases h with rfl | h
  · exact .inr (.inl (List.prefix_append _ _))
  · revert n; decide

/-- **Capture in the method bodies.**  When no parameter's name starts with `__`
or `proto_` or is `param_buffer`, every access to a parameter in the four
emitted method bodies denotes the parameter. -/
theorem methodUses_denote_of_fresh (enumNames : List (List Char)) (ps : List Param)
    (hfresh : ∀ p ∈ ps, ¬ Reserved p.name) :
    ∀ u ∈ proxySerialiserUses enumNames ps ++ stubSerialiserUses enumNames ps ++
        stubDeserialiserUses enumNames ps ++ proxyDeserialiserUses enumNames ps, u.Denotes := by
  have hwd : ∀ q, ∀ n ∈ writeDeclares enumNames q, Reserved n := fun q n hn =>
    reserved_of (x := q.name) (by
      unfold writeDeclares at hn
      split at hn <;> simp only [List.mem_singleton, List.not_mem_nil] at hn <;> subst hn <;>
        first | exact .inl rfl | exact .inr (by decide))
  have hrd : ∀ q, ∀ n ∈ readDeclares enumNames q, Reserved n := fun q n hn =>
    reserved_of (x := q.name) (by
      unfold readDeclares at hn
      split at hn <;> simp only [List.mem_singleton, List.not_mem_nil] at hn
      exact .inl hn)
  have hws : ∀ q, ∀ e ∈ writeScopes enumNames q, ∀ n ∈ e, Reserved n := fun q e he n hn =>
    reserved_of (x := q.name) (by
      unfold writeScopes at he
      split at he <;> simp only [List.mem_cons, List.not_mem_nil, or_false, or_self] at he <;> subst he <;>
        simp only [List.mem_singleton, List.not_mem_nil] at hn <;> subst hn <;>
        first | exact .inl rfl | exact .inr (by decide))
  have hrs : ∀ q, ∀ e ∈ readScopes enumNames q, ∀ n ∈ e, Reserved n := fun q e he n hn =>
    reserved_of (x := q.name) (by
      unfold readScopes at he
      split at he <;> simp only [List.mem_cons, List.not_mem_nil, or_false, or_self] at he <;>
        rcases he with rfl | rfl <;>
        simp only [List.mem_cons, List.mem_singleton, List.not_mem_nil, or_false] at hn <;>
        rcases hn with rfl | rfl <;> first | exact .inl rfl | exact .inr (by decide))
  have hin : ∀ p ∈ inParams ps, ¬ Reserved p.name := fun p hp => hfresh p (List.mem_filter.1 hp).1
  have hout : ∀ p ∈ outParams ps, ¬ Reserved p.name := fun p hp => hfresh p (List.mem_filter.1 hp).1
  intro u hu
  simp only [List.mem_append] at hu
  rcases hu with ((hu | hu) | hu) | hu
  · exact bodyUses_denote hwd hws _ _ (by decide) hin u hu
  · exact bodyUses_denote hwd hws _ _ (by decide) hout u hu
  · exact bodyUses_denote hrd hrs _ _ (by decide) hin u hu
  · exact bodyUses_denote hrd hrs _ _ (by decide) hout u hu

theorem methodUses_denote_of_fresh_get :
    (proxySerialiserUses [] [⟨"value".toList, "int".toList, true, false⟩] ++
        stubSerialiserUses [] [⟨"value".toList, "int".toList, true, false⟩] ++
        stubDeserialiserUses [] [⟨"value".toList, "int".toList, true, false⟩] ++
        proxyDeserialiserUses [] [⟨"value".toList, "int".toList, true, false⟩]).all
      (fun u => decide u.Denotes) = true :=
  List.all_eq_true.2 fun u hu => decide_eq_true (methodUses_denote_of_fresh [] _ (by decide) u hu)

/-- **Names the generator brings in.**  A member of a struct named `msg` is
read as the local message in `protobuf_serialise`; the response of
`int get([out] int& result)` declares `result` twice; in
`attach(rpc::shared_ptr<widget> peer, int proto_peer)` the proxy serialiser
reads `proto_peer` as its local pointer; and with two maps of scalars it
declares `__map` twice. -/
theorem emittedNames_counterexample :
    ¬ (∀ u ∈ serialiseUses ⟨"msg".toList, "int".toList, false⟩, u.Denotes) ∧
    ¬ (responseFieldNames "int".toList [⟨"result".toList, "int&".toList, false, true⟩]).Nodup ∧
    ¬ (∀ u ∈ proxySerialiserUses [] [⟨"peer".toList, "rpc::shared_ptr<widget>".toList, true, false⟩,
        ⟨"proto_peer".toList, "int".toList, true, false⟩], u.Denotes) ∧
    ¬ (proxySerialiserDeclarations [] [⟨"a".toList, "std::map<int, int>".toList, true, false⟩,
        ⟨"b".toList, "std::map<int, int>".toList, true, false⟩]).Nodup := by
  decide

end Protobuf
end Canopy
