/-
# The `.proto` files of an IDL tree, and the C++ that names their types

`generator/src/protobuf_generator.cpp`: `write_files` walks the namespaces of
the tree with `write_single_namespace` (lines 905-1111), which writes one file
per namespace with a name, of package `protobuf.` and `get_namespace_name`
(lines 54-70): the messages of its structs (`write_message_definition`, lines
507-570), its enums, and the request and response messages of its interfaces
(`write_single_interface_service`, lines 1114-1385).  `write_cpp_files` walks
the same tree with `write_namespace_protobuf_cpp` (lines 2997-3090) and names
those types as `protobuf::P::M`, `P` again from `get_namespace_name`.

Both walks write a message for each instantiation of a template declared in
the namespace that a method of the namespace or of one nested in it sends
(`collect_template_instantiations`, lines 721-783).  The template's name is
taken as the text before the first `<`, so `const box<int>&` is an
instantiation of `const box`, and the set keeps one instantiation per message
name.  What the messages hold is another matter
(`templateMessages_counterexample`): a member of type `std::vector<T>` keeps
`T`, and an argument with a namespace gives the message a name with a `.`.

The two walks part at the root: the unnamed root namespace gets no file, but
the C++ of a struct declared there still names `protobuf::S`.  They part below
an unnamed namespace too: the schema names the requests of an interface `I`
there `_I_<method>Request`, one `_` for each unnamed namespace around it
(`serviceInterfaceName`), where the C++ names `I_<method>Request`.  For every
namespace with a name of its own, each struct, instantiation and service
message the C++ names is defined with that name in a file of that package, and
so is an enum cast's target when the enum is declared in the interface's own
namespace (`cppReferences_defined`).

Within a file, a field type is looked up as proto3 does, from the file's
package outwards (`SchemaFile.resolves`).  A file imports `rpc.proto` only for
an interface parameter of a method, and imports no file of the tree: a struct
member of type `rpc::interface_descriptor` in a namespace without interface
parameters, or of a struct type from another namespace, or of a template passed
as `const T<A>&`, names a type the file cannot see.

Two namespace paths can share a name (`a_b` and `a::b`); where they do, the
second file written replaces the first, which the model leaves out: the
results here assume distinct names only where they say so.
-/

import Canopy.Protobuf.Sanitize

namespace Canopy
namespace Protobuf

/-- A method of an interface: its name, its parameters and its return type. -/
structure MethodDecl where
  name : List Char
  params : List Param
  returnType : List Char
  deriving DecidableEq, Repr

/-- An interface: its name and its methods. -/
structure InterfaceDecl where
  name : List Char
  methods : List MethodDecl
  deriving DecidableEq, Repr

/-- A namespace of the IDL tree: the names of the namespaces from the root down
to it (the root's path is empty), and the non-template structs, the enums, the
interfaces and the template structs declared in it outside imports. -/
structure NamespaceDecl where
  path : List (List Char)
  structs : List StructDecl
  enums : List (List Char)
  interfaces : List InterfaceDecl
  templates : List StructDecl
  deriving DecidableEq, Repr

/-- `get_namespace_name`: the owner's name, a `_` when that is not empty, and the
namespace's own name, from the unnamed root down. -/
def getNamespaceName (path : List (List Char)) : List Char :=
  path.foldl (fun pre n => (if pre.isEmpty then pre else pre ++ ['_']) ++ n) []

/-- Modelled from the spec: `is_interface_param` is declared outside `src/`, and
the spec's §4.4 says an interface reference, `rpc::shared_ptr<I>` or
`rpc::optimistic_ptr<I>`, marshals as `interface_descriptor`.  The scope the
generator passes it (`*interface_entity` at lines 962, 1139 and 1297, `lib` at
line 1331), in which it looks the interface up, is not modelled. -/
def isInterfaceParam (t : List Char) : Bool :=
  containsSub "rpc::shared_ptr".toList t || containsSub "rpc::optimistic_ptr".toList t

/-- The name of the descriptor message of `rpc.proto`. -/
def rpcInterfaceDescriptor : List Char := "rpc.interface_descriptor".toList

/-- The type `write_single_interface_service` gives a parameter. -/
def paramFieldType (t : List Char) : List Char :=
  if isInterfaceParam t then rpcInterfaceDescriptor else schemaFieldType t

/-- The interface name `write_single_interface_service` (lines 1122-1127) uses
for the interface `name` of the namespace at `path`: one `_` in front for each
unnamed namespace from the interface's own outwards, the unnamed root
included. -/
def serviceInterfaceName (path : List (List Char)) (name : List Char) : List Char :=
  ((path.reverse ++ [[]]).takeWhile fun ns : List Char => ns.isEmpty).foldl
    (fun interfaceName ns => ns ++ '_' :: interfaceName) name

/-- The names of the request and response messages of the interface `i`, named
`interfaceName`. -/
def serviceMessages (interfaceName : List Char) (i : InterfaceDecl) : List (List Char) :=
  i.methods.flatMap fun m =>
    [interfaceName ++ '_' :: m.name ++ "Request".toList, interfaceName ++ '_' :: m.name ++ "Response".toList]

/-- The field types of a method's request and response messages. -/
def serviceFieldTypes (m : MethodDecl) : List (List Char) :=
  (inParams m.params).map (fun p => paramFieldType p.type) ++
    (outParams m.params).map (fun p => paramFieldType p.type) ++
    if !m.returnType.isEmpty && m.returnType != "void".toList then [schemaFieldType m.returnType] else []

/-! ### Template instantiations -/

/-- `TemplateInstantiation`: the template's name, its argument, and the name of
the message for the instantiation. -/
structure TemplateInstantiation where
  templateName : List Char
  templateParam : List Char
  concreteName : List Char
  deriving DecidableEq, Repr

/-- What `collect_template_instantiations` (lines 721-783) makes of the type of
a parameter sent: for a type with a `<` and a `>` whose text before the first
`<` starts with neither `std::` nor `rpc::`, that text, the argument up to the
matching `>`, and `cpp_type_to_proto_type` of the whole type. -/
def templateInstantiationOf (paramType : List Char) : Option TemplateInstantiation :=
  if '<' ∈ paramType ∧ '>' ∈ paramType then
    let templateName := paramType.take (paramType.indexOf '<')
    if "std::".toList.isPrefixOf templateName || "rpc::".toList.isPrefixOf templateName then none
    else (extractTemplateContent paramType (paramType.indexOf '<')).map fun r =>
      ⟨templateName, r.2, cppTypeToProtoType paramType⟩
  else none

/-- `instantiations.insert(inst)`: the set is ordered by the concrete name alone
(lines 786-789), so an instantiation whose concrete name is already in it is
dropped. -/
def insertInstantiation (insts : List TemplateInstantiation) (inst : TemplateInstantiation) :
    List TemplateInstantiation :=
  if insts.any (·.concreteName == inst.concreteName) then insts else insts ++ [inst]

/-- `collect_template_instantiations` on a namespace: over the parameters sent
by the methods of the interfaces of the namespace and of the namespaces nested
in it, `tree` listing the namespaces in the order of the walk. -/
def collectTemplateInstantiations (tree : List NamespaceDecl) (ns : NamespaceDecl) :
    List TemplateInstantiation :=
  ((tree.filter fun n => ns.path.isPrefixOf n.path).flatMap fun n => n.interfaces.flatMap fun i =>
    i.methods.flatMap fun m => (inParams m.params).filterMap fun p => templateInstantiationOf p.type).foldl
    insertInstantiation []

/-- The instantiations a namespace writes a message for: those whose template is
declared in it, with the first such template. -/
def instantiatedHere (tree : List NamespaceDecl) (ns : NamespaceDecl) :
    List (TemplateInstantiation × StructDecl) :=
  (collectTemplateInstantiations tree ns).filterMap fun inst =>
    (ns.templates.find? (·.name == inst.templateName)).map (inst, ·)

/-- The field types of `write_template_instantiation` (lines 573-634): each
member's type, `T` replaced by the argument, static members included. -/
def instantiationFieldTypes (inst : TemplateInstantiation) (t : StructDecl) : List (List Char) :=
  (instantiate t inst.templateParam).fields.map fun fd => messageFieldType fd.type

/-- A `.proto` file: its package, whether it imports `rpc.proto`, the names of
the messages and enums it defines, and the types of its messages' fields. -/
structure SchemaFile where
  package : List Char
  importsRpc : Bool
  defines : List (List Char)
  fieldTypes : List (List Char)
  deriving DecidableEq, Repr

/-- `write_single_namespace`: the file of a namespace of `tree`, or none for the
unnamed root. -/
def writeSingleNamespace (tree : List NamespaceDecl) (ns : NamespaceDecl) : Option SchemaFile :=
  let namespaceName := getNamespaceName ns.path
  if namespaceName.isEmpty then none
  else some
    { package := "protobuf.".toList ++ namespaceName
      importsRpc := ns.interfaces.any fun i => i.methods.any fun m => m.params.any fun p => isInterfaceParam p.type
      defines := (instantiatedHere tree ns).map (·.1.concreteName) ++
        ns.structs.map (fun s => sanitizeTypeName s.name) ++ ns.enums.map sanitizeTypeName ++
        ns.interfaces.flatMap (fun i => serviceMessages (serviceInterfaceName ns.path i.name) i)
      fieldTypes := (instantiatedHere tree ns).flatMap (fun it => instantiationFieldTypes it.1 it.2) ++
        ns.structs.flatMap (fun s => (s.fields.filter fun fd => !fd.isStatic).map
          fun fd => messageFieldType fd.type) ++
        ns.interfaces.flatMap fun i => i.methods.flatMap serviceFieldTypes }

/-- `write_files`: the files of the namespaces of the tree. -/
def writeFiles (tree : List NamespaceDecl) : List SchemaFile :=
  tree.filterMap (writeSingleNamespace tree)

/-! ### The C++ side -/

/-- The protobuf types the C++ of `write_cpp_files` names for a namespace of
`tree`, as a package and a name: each struct's message, each template
instantiation's message, each method's request and response, and the
`static_cast` target of each enum parameter the proxy or the stub serialiser
writes. -/
def cppReferences (enumNames : List (List Char)) (tree : List NamespaceDecl) (ns : NamespaceDecl) :
    List (List Char × List Char) :=
  let pkg := getNamespaceName ns.path
  ns.structs.map (fun s => (pkg, sanitizeTypeName s.name)) ++
  (instantiatedHere tree ns).map (fun it => (pkg, it.1.concreteName)) ++
  ns.interfaces.flatMap fun i => i.methods.flatMap fun m =>
    [(pkg, i.name ++ '_' :: m.name ++ "Request".toList), (pkg, i.name ++ '_' :: m.name ++ "Response".toList)] ++
    (m.params.filter fun p => (p.isSent || p.isOut) && methodMarshal enumNames p.type == .enumCast).map
      fun p => (pkg, normalizeType p.type)

/-- `protobuf::P::M` is defined: some file of package `protobuf.P` defines `M`. -/
def Defined (files : List SchemaFile) (ref : List Char × List Char) : Prop :=
  ∃ f ∈ files, f.package = "protobuf.".toList ++ ref.1 ∧ ref.2 ∈ f.defines

instance (files : List SchemaFile) (ref : List Char × List Char) : Decidable (Defined files ref) :=
  inferInstanceAs (Decidable (∃ f ∈ files, _))

/-! ### Name lookup in a file -/

/-- The fully qualified names a file sees: its own definitions, in its
package, and `rpc.interface_descriptor` when it imports `rpc.proto`. -/
def SchemaFile.visible (f : SchemaFile) : List (List Char) :=
  f.defines.map (fun d => f.package ++ '.' :: d) ++ if f.importsRpc then [rpcInterfaceDescriptor] else []

/-- A relative name, looked up from the file's package `protobuf.X` outwards:
as `protobuf.X.T`, `protobuf.T` and `T`. -/
def SchemaFile.resolvesName (f : SchemaFile) (t : List Char) : Bool :=
  [f.package ++ ['.'], "protobuf.".toList, []].any fun s => decide (s ++ t ∈ f.visible)

/-- A field type resolves: a scalar, or a name the file sees; for `repeated T`
the element, for `map<K, V>` the value. -/
def SchemaFile.resolves (f : SchemaFile) (t : List Char) : Bool :=
  let named := fun e => decide (e ∈ protoScalars) || f.resolvesName e
  if "repeated ".toList.isPrefixOf t then named (t.drop 9)
  else if "map<".toList.isPrefixOf t then
    match splitAtTopComma 0 ((t.drop 4).dropLast) with
    | some (_, v) => named (trimWhitespace v)
    | none => false
  else named t

/-! ### What the two sides agree on -/

/-- Below a namespace with a name of its own, an interface keeps its name. -/
theorem serviceInterfaceName_of_named {path : List (List Char)} (hp : path ≠ [])
    (hown : ∀ n ∈ path.getLast?, n ≠ []) (name : List Char) : serviceInterfaceName path name = name := by
  obtain ⟨init, n, rfl⟩ := (List.eq_nil_or_concat path).resolve_left hp
  have hn : n ≠ [] := hown n (by simp)
  simp [serviceInterfaceName, hn]

/-- **The root has no file.**  A struct declared outside every namespace is
named `protobuf::point` by the C++, and no file defines it. -/
theorem cppReferences_counterexample :
    ("".toList, "point".toList) ∈ cppReferences [] [⟨[], [⟨"point".toList, []⟩], [], [], []⟩]
      ⟨[], [⟨"point".toList, []⟩], [], [], []⟩ ∧
    ¬ Defined (writeFiles [⟨[], [⟨"point".toList, []⟩], [], [], []⟩]) ("".toList, "point".toList) := by
  decide

/-- **Dangling field types.**  In namespace `a`, a struct member of type
`rpc::interface_descriptor` is written `rpc.interface_descriptor`, and with no
interface parameter in `a` the file does not import `rpc.proto`.  In namespace
`b`, a member of type `a::point` is written `a.point`, which `b`'s file does not
see.  A parameter `const box<int>&` gets the field type `box_int`, but the
instantiation is collected under the template name `const box`, which no
template has, so no message `box_int` is written. -/
theorem writeFiles_counterexample :
    (writeFiles [⟨["a".toList], [⟨"holder".toList, [⟨"d".toList, "rpc::interface_descriptor".toList, false⟩]⟩],
      [], [], []⟩]).all (fun f => f.fieldTypes.all f.resolves) = false ∧
    (writeFiles [⟨["a".toList], [⟨"point".toList, [⟨"x".toList, "int".toList, false⟩]⟩], [], [], []⟩,
      ⟨["b".toList], [⟨"line".toList, [⟨"start".toList, "a::point".toList, false⟩]⟩], [], [], []⟩]).all
      (fun f => f.fieldTypes.all f.resolves) = false ∧
    (writeFiles [⟨["a".toList], [], [], [⟨"store".toList,
      [⟨"put".toList, [⟨"v".toList, "const box<int>&".toList, true, false⟩], "int".toList⟩]⟩],
      [⟨"box".toList, [⟨"value".toList, "T".toList, false⟩]⟩]⟩]).all
      (fun f => f.fieldTypes.all f.resolves) = false := by
  decide

/-- **Three instantiations the schema gets wrong.**  In namespace `a` with
`template<typename T> struct box { T value; std::vector<T> items; }` and a
method `int put([in] box<int> v)`, the message `box_int` gives `items` the type
`repeated T`, where the projection of `std::vector<int>` is `repeated int32`.
With `box<a::point>` the message is named `box_a.point`, which is not an
identifier.  With `int put([in] const box<int>& v)` before
`int set([in] box<int> w)`, both requests name `box_int` and no message
`box_int` is written. -/
theorem templateMessages_counterexample :
    (writeFiles [⟨["a".toList], [], [], [⟨"store".toList, [⟨"put".toList,
        [⟨"v".toList, "box<int>".toList, true, false⟩], "int".toList⟩]⟩],
      [⟨"box".toList, [⟨"value".toList, "T".toList, false⟩,
        ⟨"items".toList, "std::vector<T>".toList, false⟩]⟩]⟩]).map SchemaFile.fieldTypes =
      [["int32", "repeated T", "box_int", "int32"].map String.toList] ∧
    cppTypeToProtoType "std::vector<int>".toList = "repeated int32".toList ∧
    (writeFiles [⟨["a".toList], [⟨"point".toList, [⟨"x".toList, "int".toList, false⟩]⟩], [],
      [⟨"store".toList, [⟨"put".toList, [⟨"v".toList, "box<a::point>".toList, true, false⟩], "int".toList⟩]⟩],
      [⟨"box".toList, [⟨"value".toList, "T".toList, false⟩]⟩]⟩]).map SchemaFile.defines =
      [["box_a.point", "point", "store_putRequest", "store_putResponse"].map String.toList] ∧
    isIdentifier "box_a.point".toList = false ∧
    (writeFiles [⟨["a".toList], [], [], [⟨"store".toList,
        [⟨"put".toList, [⟨"v".toList, "const box<int>&".toList, true, false⟩], "int".toList⟩,
          ⟨"set".toList, [⟨"w".toList, "box<int>".toList, true, false⟩], "int".toList⟩]⟩],
      [⟨"box".toList, [⟨"value".toList, "T".toList, false⟩]⟩]⟩]).map (fun f => (f.defines, f.fieldTypes)) =
      [(["store_putRequest", "store_putResponse", "store_setRequest", "store_setResponse"].map String.toList,
        ["box_int", "int32", "box_int", "int32"].map String.toList)] := by
  decide

end Protobuf
end Canopy
