/-
# The walks over the IDL tree

`generator/src/protobuf_generator.cpp` walks the tree of the IDL's entities
three times, each namespace's members in the order
`get_elements(entity_type::NAMESPACE_MEMBERS)` lists them:

| walk | lines | skips imports | what it writes |
| --- | --- | --- | --- |
| `write_single_namespace` | 905-1111 | yes | one `.proto` file per namespace with a name, and `generated_files` |
| `collect_template_instantiations` | 721-783 | no | the instantiations below a namespace |
| `write_namespace_protobuf_cpp` | 2997-3090 | yes | the C++, in one `namespace` block per namespace |

`write_files` (lines 1389-1480) starts the first walk at the unnamed root, then
writes the master file, which imports every generated file with `import
public`, and `manifest.txt`, which lists the master file and `generated_files`.

A file is opened when the walk enters its namespace, so two namespaces with one
flattened name (`a_b` beside `a::b`) write one path twice.  Neither is nested
in the other, the nested one's name being the longer, so the first file is
closed before the second is opened and the second replaces it
(`Written.finalFile`).

The flat tree of `Schema` is what the first walk reads (`treeOf`): for an IDL
without imports whose sibling namespaces have distinct names, the walk writes
the files `writeFiles` describes, up to the order of the definitions in each
(`writeNamespaces_refines`).  `generated_files` names each file once
(`writeFiles_manifest`), and every message the C++ names below the root is
defined in the final file of its package when no namespace is unnamed and no
two share a flattened name (`writeCppFiles_defined`).  They share none when
sibling namespaces have distinct names and no name is empty or has a `_`, and
then no file replaces another (`writeNamespaces_finalFile`).
-/

import Canopy.Protobuf.Schema
import Mathlib.Data.List.Dedup
import Mathlib.Data.List.Sort

namespace Canopy
namespace Protobuf

/-- An element of a namespace, with `is_in_import()`: a nested namespace
(`has_value("inline")`), a struct (`get_is_template()`), an enum, or an
interface. -/
inductive Entity where
  | nested (name : List Char) (isInline inImport : Bool) (members : List Entity)
  | struct (decl : StructDecl) (isTemplate inImport : Bool)
  | enum (name : List Char) (inImport : Bool)
  | interface (decl : InterfaceDecl) (inImport : Bool)
  deriving Repr

namespace Entity

/-- An interface of `get_elements(entity_type::INTERFACE)`, imported or not. -/
def interfaceElement : Entity → Option InterfaceDecl
  | interface i _ => some i
  | _ => none

/-- A template struct of `get_elements(entity_type::STRUCT)`, imported or not. -/
def templateElement : Entity → Option StructDecl
  | struct s true _ => some s
  | _ => none

/-- A struct the walks write a message for: not a template, not imported. -/
def structMember : Entity → Option StructDecl
  | struct s false false => some s
  | _ => none

/-- An enum outside imports. -/
def enumMember : Entity → Option (List Char)
  | enum n false => some n
  | _ => none

/-- An interface outside imports. -/
def interfaceMember : Entity → Option InterfaceDecl
  | interface i false => some i
  | _ => none

/-- The name of a nested namespace outside imports. -/
def nestedName : Entity → Option (List Char)
  | nested n _ false _ => some n
  | _ => none

/-- The names a member of the namespace at `path` puts in its namespace's file:
its message, its enum, or its interface's requests and responses. -/
def defines (path : List (List Char)) : Entity → List (List Char)
  | struct s false false => [sanitizeTypeName s.name]
  | enum n false => [sanitizeTypeName n]
  | interface i false => serviceMessages (serviceInterfaceName path i.name) i
  | _ => []

/-- The field types a member writes in its namespace's file. -/
def fieldTypes : Entity → List (List Char)
  | struct s false false => (s.fields.filter fun fd => !fd.isStatic).map fun fd => messageFieldType fd.type
  | interface i false => i.methods.flatMap serviceFieldTypes
  | _ => []

end Entity

/-- The namespace at `path` with members `ms`, as the flat tree has it. -/
def declOf (path : List (List Char)) (ms : List Entity) : NamespaceDecl :=
  ⟨path, ms.filterMap Entity.structMember, ms.filterMap Entity.enumMember,
    ms.filterMap Entity.interfaceMember, ms.filterMap Entity.templateElement⟩

@[simp] theorem declOf_path (path : List (List Char)) (ms : List Entity) : (declOf path ms).path = path := rfl

/-! ### The namespaces outside imports -/

mutual
/-- The namespaces an element opens outside imports, with their paths and
members: the namespace, then those nested in it. -/
def Entity.scopes (path : List (List Char)) : Entity → List (List (List Char) × List Entity)
  | .nested n _ false ms => (path ++ [n], ms) :: scopesIn (path ++ [n]) ms
  | _ => []

/-- The namespaces below a namespace at `path` with members `ms`, in the order of
the walks. -/
def scopesIn (path : List (List Char)) : List Entity → List (List (List Char) × List Entity)
  | [] => []
  | e :: es => e.scopes path ++ scopesIn path es
end

/-- The flat tree of an IDL whose root has members `root`: the root, then every
namespace outside imports. -/
def treeOf (root : List Entity) : List NamespaceDecl :=
  (([], root) :: scopesIn [] root).map fun s => declOf s.1 s.2

mutual
/-- No element below is in an import. -/
def Entity.noImports : Entity → Bool
  | .nested _ _ b ms => !b && noImportsIn ms
  | .struct _ _ b | .enum _ b | .interface _ b => !b

/-- No member, nor any element below one, is in an import. -/
def noImportsIn : List Entity → Bool
  | [] => true
  | e :: es => e.noImports && noImportsIn es
end

mutual
/-- The namespaces nested in one namespace have distinct names, at every level. -/
def Entity.uniqueNesting : Entity → Bool
  | .nested _ _ _ ms => uniqueNestingIn ms
  | _ => true

/-- The nested namespaces among `ms` have distinct names, at every level. -/
def uniqueNestingIn : List Entity → Bool
  | [] => true
  | e :: es => e.nestedName.all (fun n => !(es.filterMap Entity.nestedName).contains n) &&
      e.uniqueNesting && uniqueNestingIn es
end

/-! ### `collect_template_instantiations` -/

/-- The instantiations the parameters sent by some interfaces' methods name. -/
def interfaceInstantiations (is : List InterfaceDecl) : List TemplateInstantiation :=
  is.flatMap fun i => i.methods.flatMap fun m => (inParams m.params).filterMap fun p => templateInstantiationOf p.type

mutual
/-- `collect_template_instantiations` below an element: a namespace, imported or
not, adds those of its interfaces, then those of each namespace in it. -/
def Entity.collectTemplateInstantiations : Entity → List TemplateInstantiation → List TemplateInstantiation
  | .nested _ _ _ ms, insts =>
    collectNested ms ((interfaceInstantiations (ms.filterMap Entity.interfaceElement)).foldl insertInstantiation insts)
  | _, insts => insts

/-- The recursive calls of `collect_template_instantiations` on the namespaces
among `ms`, in turn. -/
def collectNested : List Entity → List TemplateInstantiation → List TemplateInstantiation
  | [], insts => insts
  | e :: es, insts => collectNested es (e.collectTemplateInstantiations insts)
end

/-- `collect_template_instantiations` on a namespace with members `ms`. -/
def collectMembers (ms : List Entity) (insts : List TemplateInstantiation) : List TemplateInstantiation :=
  collectNested ms ((interfaceInstantiations (ms.filterMap Entity.interfaceElement)).foldl insertInstantiation insts)

/-- The instantiations a namespace writes: those whose template is one of its
template structs, with the first such. -/
def instantiatedIn (ms : List Entity) (insts : List TemplateInstantiation) :
    List (TemplateInstantiation × StructDecl) :=
  insts.filterMap fun inst => ((ms.filterMap Entity.templateElement).find? (·.name == inst.templateName)).map (inst, ·)

/-! ### `write_single_namespace` and `write_files` -/

/-- The file `write_single_namespace` writes for a namespace with a name at
`path` with members `ms`: the instantiations first, then each member in turn.
`rpc.proto` is imported for an interface parameter of any of its interfaces. -/
def namespaceFile (path : List (List Char)) (ms : List Entity) : SchemaFile :=
  let here := instantiatedIn ms (collectMembers ms [])
  { package := "protobuf.".toList ++ getNamespaceName path
    importsRpc := (ms.filterMap Entity.interfaceElement).any fun i =>
      i.methods.any fun m => m.params.any fun p => isInterfaceParam p.type
    defines := here.map (·.1.concreteName) ++ ms.flatMap (Entity.defines path)
    fieldTypes := here.flatMap (fun it => instantiationFieldTypes it.1 it.2) ++ ms.flatMap Entity.fieldTypes }

/-- What the walk has written: each file opened, with its path, in turn, and
`generated_files`. -/
structure Written where
  files : List (List Char × SchemaFile)
  generatedFiles : List (List Char)
  deriving Repr

/-- `sub_directory / "schema" / (namespace_name + ".proto")`. -/
def schemaFilePath (subDirectory namespaceName : List Char) : List Char :=
  pathAppend (pathAppend subDirectory "schema".toList) (namespaceName ++ ".proto".toList)

theorem schemaFilePath_eq (subDirectory namespaceName : List Char) :
    schemaFilePath subDirectory namespaceName =
      pathAppend subDirectory "schema".toList ++ '/' :: (namespaceName ++ ".proto".toList) :=
  pathAppend_of_getLast (c := 'a') (by simp [pathAppend]) (by decide) _

/-- `generated_files.push_back(f)` unless `std::find` finds `f`. -/
def addGenerated (f : List Char) (gs : List (List Char)) : List (List Char) :=
  if f ∈ gs then gs else gs ++ [f]

mutual
/-- `write_single_namespace` on an element of a namespace at `path`: a nested
namespace outside imports with a name opens its file, writes it, walks its own
members, and is added to `generated_files`; one without a name only walks its
members. -/
def Entity.writeSingleNamespace (subDirectory : List Char) (path : List (List Char)) :
    Entity → Written → Written
  | .nested n _ false ms, w =>
    if (getNamespaceName (path ++ [n])).isEmpty then writeNamespaces subDirectory (path ++ [n]) ms w
    else
      let file := schemaFilePath subDirectory (getNamespaceName (path ++ [n]))
      let w' := writeNamespaces subDirectory (path ++ [n]) ms
        ⟨w.files ++ [(file, namespaceFile (path ++ [n]) ms)], w.generatedFiles⟩
      ⟨w'.files, addGenerated file w'.generatedFiles⟩
  | _, w => w

/-- The loop of `write_single_namespace` over the members `ms` of a namespace at
`path`. -/
def writeNamespaces (subDirectory : List Char) (path : List (List Char)) : List Entity → Written → Written
  | [], w => w
  | e :: es, w => writeNamespaces subDirectory path es (e.writeSingleNamespace subDirectory path w)
end

/-- What the files hold when the walk is over: the last file written at each path. -/
def Written.finalFile (w : Written) (file : List Char) : Option SchemaFile :=
  (w.files.reverse.find? (·.1 == file)).map Prod.snd

/-- The output of `write_files`: the namespace files, the generated files the
master file imports, and the lines of `manifest.txt`. -/
structure ProtoOutput where
  written : Written
  masterImports : List (List Char)
  manifest : List (List Char)

/-- `write_files`: the walk from the unnamed root, then the master file, which
imports each generated file but itself and those with no name (a path with
`/.proto`) in the order of the `std::set` it copies them to, and the manifest,
the master file first. -/
def Entity.writeFiles (subDirectory baseFilename : List Char) (root : List Entity) : ProtoOutput :=
  let w := writeNamespaces subDirectory [] root ⟨[], []⟩
  let master := masterRelativePath subDirectory baseFilename
  { written := w
    masterImports := (w.generatedFiles.dedup.insertionSort fun a b => stringLess a b = true).filter fun g =>
      g != master && !g.isEmpty && !containsSub "/.proto".toList g
    manifest := master :: w.generatedFiles }

/-! ### What the walk writes -/

/-- The file the namespace of a scope gets, with its path, if it has a name. -/
def namedFile (subDirectory : List Char) (s : List (List Char) × List Entity) :
    Option (List Char × SchemaFile) :=
  if (getNamespaceName s.1).isEmpty then none
  else some (schemaFilePath subDirectory (getNamespaceName s.1), namespaceFile s.1 s.2)

section Walk

variable (subDirectory : List Char)

mutual
theorem Entity.writeSingleNamespace_files (path : List (List Char)) : ∀ (e : Entity) (w : Written),
    (e.writeSingleNamespace subDirectory path w).files = w.files ++ (e.scopes path).filterMap (namedFile subDirectory)
  | .nested n _ false ms, w => by
    rw [Entity.writeSingleNamespace, Entity.scopes, List.filterMap_cons]
    by_cases h : (getNamespaceName (path ++ [n])).isEmpty
    · simp only [h, if_true, namedFile, writeNamespaces_files]
    · simp only [h, if_false, namedFile, writeNamespaces_files, List.append_assoc, Bool.false_eq_true,
        List.singleton_append]
  | .nested _ _ true _, _ | .struct .., _ | .enum .., _ | .interface .., _ => by
    simp [Entity.writeSingleNamespace, Entity.scopes]

/-- **The files the walk opens.**  One for each namespace with a name, outside
imports, in the order of the walk. -/
theorem writeNamespaces_files (path : List (List Char)) : ∀ (ms : List Entity) (w : Written),
    (writeNamespaces subDirectory path ms w).files = w.files ++ (scopesIn path ms).filterMap (namedFile subDirectory)
  | [], w => by simp [writeNamespaces, scopesIn]
  | e :: es, w => by
    rw [writeNamespaces, writeNamespaces_files, Entity.writeSingleNamespace_files, scopesIn,
      List.filterMap_append, List.append_assoc]
end

end Walk

theorem addGenerated_nodup {f : List Char} {gs : List (List Char)} (h : gs.Nodup) : (addGenerated f gs).Nodup := by
  unfold addGenerated
  split
  · exact h
  · exact List.nodup_append.2 ⟨h, List.nodup_singleton f, List.disjoint_singleton.2 ‹_›⟩

@[simp] theorem mem_addGenerated {f g : List Char} {gs : List (List Char)} :
    g ∈ addGenerated f gs ↔ g ∈ gs ∨ g = f := by
  unfold addGenerated
  split
  · rename_i hf
    exact ⟨.inl, fun h => h.elim id (· ▸ hf)⟩
  · simp

/-- The generated files the walk adds, and that it keeps them distinct. -/
def GeneratedFrom (before after : List (List Char)) (opened : List (List Char × SchemaFile)) : Prop :=
  (before.Nodup → after.Nodup) ∧ ∀ g, g ∈ after ↔ g ∈ before ∨ g ∈ opened.map Prod.fst

theorem GeneratedFrom.trans {a b c : List (List Char)} {o o' : List (List Char × SchemaFile)}
    (h₁ : GeneratedFrom a b o) (h₂ : GeneratedFrom b c o') : GeneratedFrom a c (o ++ o') :=
  ⟨fun h => h₂.1 (h₁.1 h), fun g => by rw [h₂.2, h₁.2, List.map_append, List.mem_append, or_assoc]⟩

section Generated

variable (subDirectory : List Char)

mutual
theorem Entity.writeSingleNamespace_generated (path : List (List Char)) : ∀ (e : Entity) (w : Written),
    GeneratedFrom w.generatedFiles (e.writeSingleNamespace subDirectory path w).generatedFiles
      ((e.scopes path).filterMap (namedFile subDirectory))
  | .nested n _ false ms, w => by
    rw [Entity.writeSingleNamespace, Entity.scopes, List.filterMap_cons]
    by_cases h : (getNamespaceName (path ++ [n])).isEmpty
    · simpa only [h, if_true, namedFile] using writeNamespaces_generated (path ++ [n]) ms w
    · simp only [h, if_false, namedFile, Bool.false_eq_true]
      have ih := writeNamespaces_generated (path ++ [n]) ms
        ⟨w.files ++ [(schemaFilePath subDirectory (getNamespaceName (path ++ [n])),
          namespaceFile (path ++ [n]) ms)], w.generatedFiles⟩
      refine ⟨fun hw => addGenerated_nodup (ih.1 hw), fun g => ?_⟩
      rw [mem_addGenerated, ih.2, List.map_cons, List.mem_cons]
      simp only [or_comm, or_left_comm]
  | .nested _ _ true _, _ | .struct .., _ | .enum .., _ | .interface .., _ =>
    ⟨id, fun _ => by simp [Entity.writeSingleNamespace, Entity.scopes]⟩

/-- **`generated_files`.**  The walk adds the paths of the files it opens, each
once. -/
theorem writeNamespaces_generated (path : List (List Char)) : ∀ (ms : List Entity) (w : Written),
    GeneratedFrom w.generatedFiles (writeNamespaces subDirectory path ms w).generatedFiles
      ((scopesIn path ms).filterMap (namedFile subDirectory))
  | [], w => ⟨id, fun _ => by simp [writeNamespaces, scopesIn]⟩
  | e :: es, w => by
    rw [writeNamespaces, scopesIn, List.filterMap_append]
    exact (Entity.writeSingleNamespace_generated path e w).trans (writeNamespaces_generated path es _)
end

end Generated

theorem slash_not_mem_fileName (p : List Char) : '/' ∉ fileName p := fun h => by
  simpa using List.mem_takeWhile_imp (List.mem_reverse.1 h)

/-- A namespace file is never the master file: its path has a `/` after the
sub-directory, the master file's name has none. -/
theorem schemaFilePath_ne_master (subDirectory baseFilename namespaceName : List Char) :
    schemaFilePath subDirectory namespaceName ≠ masterRelativePath subDirectory baseFilename := fun h => by
  simp only [schemaFilePath_eq, masterRelativePath, pathAppend, List.append_assoc, List.append_cancel_left_eq] at h
  have : '/' ∈ fileName baseFilename ++ "_all.proto".toList :=
    h ▸ List.mem_append_right _ (List.mem_cons_self _ _)
  simp only [List.mem_append, slash_not_mem_fileName, false_or] at this
  exact absurd this (by decide)

/-- **The manifest and the master file.**  `manifest.txt` lists the master file
and then the path of every namespace file the walk opens, each once; the master
file imports each of those paths without `/.proto` once. -/
theorem writeFiles_manifest (subDirectory baseFilename : List Char) (root : List Entity) :
    (Entity.writeFiles subDirectory baseFilename root).manifest.Nodup ∧
    (∀ g, g ∈ (Entity.writeFiles subDirectory baseFilename root).manifest ↔
      g = masterRelativePath subDirectory baseFilename ∨
        g ∈ (Entity.writeFiles subDirectory baseFilename root).written.files.map Prod.fst) ∧
    (Entity.writeFiles subDirectory baseFilename root).masterImports.Nodup ∧
    ∀ g, g ∈ (Entity.writeFiles subDirectory baseFilename root).masterImports ↔
      g ∈ (Entity.writeFiles subDirectory baseFilename root).written.files.map Prod.fst ∧
        containsSub "/.proto".toList g = false := by
  have hfiles : (writeNamespaces subDirectory [] root ⟨[], []⟩).files =
      (scopesIn [] root).filterMap (namedFile subDirectory) :=
    writeNamespaces_files subDirectory [] root ⟨[], []⟩
  obtain ⟨hnd, hmem⟩ := writeNamespaces_generated subDirectory [] root ⟨[], []⟩
  have hgen : ∀ g, g ∈ (writeNamespaces subDirectory [] root ⟨[], []⟩).generatedFiles ↔
      g ∈ (writeNamespaces subDirectory [] root ⟨[], []⟩).files.map Prod.fst := fun g => by
    rw [hmem, hfiles]; exact or_iff_right (List.not_mem_nil g)
  have hpath : ∀ g ∈ (writeNamespaces subDirectory [] root ⟨[], []⟩).files.map Prod.fst,
      g ≠ masterRelativePath subDirectory baseFilename ∧ g ≠ [] := by
    rw [hfiles]
    intro g hg
    obtain ⟨x, hx, rfl⟩ := List.mem_map.1 hg
    obtain ⟨s, -, hs⟩ := List.mem_filterMap.1 hx
    unfold namedFile at hs
    split at hs
    · cases hs
    · cases hs
      exact ⟨schemaFilePath_ne_master _ _ _, by simp [schemaFilePath_eq]⟩
  refine ⟨List.nodup_cons.2 ⟨fun h => (hpath _ ((hgen _).1 h)).1 rfl, hnd List.nodup_nil⟩,
    fun g => by simp only [Entity.writeFiles, List.mem_cons, hgen],
    ((List.perm_insertionSort _ _).nodup_iff.2 (List.nodup_dedup _)).filter _, fun g => ?_⟩
  simp only [Entity.writeFiles, List.mem_filter, List.mem_insertionSort, List.mem_dedup, hgen, Bool.and_eq_true, bne_iff_ne, ne_eq,
    Bool.not_eq_true', List.isEmpty_eq_false]
  exact ⟨fun h => ⟨h.1, h.2.2⟩, fun h => ⟨h.1, ⟨(hpath g h.1).1, (hpath g h.1).2⟩, h.2⟩⟩

/-! ### The flat tree is what the walk reads -/

mutual
theorem Entity.scopes_path (path : List (List Char)) : ∀ (e : Entity), ∀ s ∈ e.scopes path,
    ∃ n r, e.nestedName = some n ∧ s.1 = path ++ n :: r
  | .nested n _ false ms, s, hs => by
    rw [Entity.scopes, List.mem_cons] at hs
    rcases hs with rfl | hs
    · exact ⟨n, [], rfl, rfl⟩
    · obtain ⟨n', r, -, h⟩ := scopesIn_path (path ++ [n]) ms s hs
      exact ⟨n, n' :: r, rfl, by simp [h]⟩
  | .nested _ _ true _, _, hs | .struct .., _, hs | .enum .., _, hs | .interface .., _, hs => by
    simp [Entity.scopes] at hs

/-- Every namespace below one at `path` is at `path`, then the name of one of
its nested namespaces, then more. -/
theorem scopesIn_path (path : List (List Char)) : ∀ (ms : List Entity), ∀ s ∈ scopesIn path ms,
    ∃ n r, n ∈ ms.filterMap Entity.nestedName ∧ s.1 = path ++ n :: r
  | [], s, hs => by simp [scopesIn] at hs
  | e :: es, s, hs => by
    rw [scopesIn, List.mem_append] at hs
    rcases hs with hs | hs
    · obtain ⟨n, r, hn, h⟩ := Entity.scopes_path path e s hs
      exact ⟨n, r, List.mem_filterMap.2 ⟨e, List.mem_cons_self _ _, hn⟩, h⟩
    · obtain ⟨n, r, hn, h⟩ := scopesIn_path path es s hs
      obtain ⟨a, ha, hna⟩ := List.mem_filterMap.1 hn
      exact ⟨n, r, List.mem_filterMap.2 ⟨a, List.mem_cons_of_mem _ ha, hna⟩, h⟩
end

theorem isPrefixOf_append_cons {path r r' : List (List Char)} {n n' : List Char}
    (h : (path ++ n :: r).isPrefixOf (path ++ n' :: r') = true) : n = n' := by
  rw [List.isPrefixOf_iff_prefix, List.prefix_append_right_inj, List.cons_prefix_cons] at h
  exact h.1

theorem isPrefixOf_longer {q t : List (List Char)} (h : t.length < q.length) : q.isPrefixOf t = false := by
  rw [← Bool.not_eq_true, List.isPrefixOf_iff_prefix]
  exact fun hp => absurd hp.length_le (by omega)

/-- When the name of `e` is none of its later siblings', no namespace below `e`
has the path of one below them, nor a prefix or an extension of it. -/
theorem scopes_separate (path : List (List Char)) {e : Entity} {es : List Entity}
    (hfresh : e.nestedName.all (fun n => !(es.filterMap Entity.nestedName).contains n) = true) :
    ∀ t ∈ e.scopes path, ∀ t' ∈ scopesIn path es, t.1.isPrefixOf t'.1 = false ∧ t'.1.isPrefixOf t.1 = false := by
  intro t ht t' ht'
  obtain ⟨n, r, hn, h⟩ := Entity.scopes_path path e t ht
  obtain ⟨n', r', hn', h'⟩ := scopesIn_path path es t' ht'
  have hne : n ≠ n' := by
    rw [hn] at hfresh
    simp only [Option.all_some, Bool.not_eq_true', List.contains, List.elem_eq_mem, decide_eq_false_iff_not] at hfresh
    exact fun he => hfresh (he ▸ hn')
  rw [h, h']
  exact ⟨Bool.eq_false_iff.2 fun hp => hne (isPrefixOf_append_cons hp),
    Bool.eq_false_iff.2 fun hp => hne (isPrefixOf_append_cons hp).symm⟩

mutual
theorem Entity.filter_scopes (path : List (List Char)) : ∀ (e : Entity), e.uniqueNesting = true →
    ∀ s ∈ e.scopes path, (e.scopes path).filter (fun t => s.1.isPrefixOf t.1) = s :: scopesIn s.1 s.2
  | .nested n _ false ms, hu, s, hs => by
    rw [Entity.uniqueNesting] at hu
    rw [Entity.scopes, List.mem_cons] at hs
    rw [Entity.scopes, List.filter_cons]
    rcases hs with rfl | hs
    · rw [if_pos (List.isPrefixOf_iff_prefix.2 (List.prefix_refl _)), List.filter_eq_self.2]
      intro t ht
      obtain ⟨n', r, -, h⟩ := scopesIn_path (path ++ [n]) ms t ht
      exact List.isPrefixOf_iff_prefix.2 ⟨n' :: r, h.symm⟩
    · obtain ⟨n', r, -, h⟩ := scopesIn_path (path ++ [n]) ms s hs
      rw [if_neg (by rw [isPrefixOf_longer (by simp [h])]; exact Bool.false_ne_true)]
      exact filter_scopesIn (path ++ [n]) ms hu s hs
  | .nested _ _ true _, _, _, hs | .struct .., _, _, hs | .enum .., _, _, hs | .interface .., _, _, hs => by
    simp [Entity.scopes] at hs

/-- **A namespace's subtree.**  When sibling namespaces have distinct names, the
namespaces whose path extends that of one below `path` are it and those nested
in it. -/
theorem filter_scopesIn (path : List (List Char)) : ∀ (ms : List Entity), uniqueNestingIn ms = true →
    ∀ s ∈ scopesIn path ms, (scopesIn path ms).filter (fun t => s.1.isPrefixOf t.1) = s :: scopesIn s.1 s.2
  | [], _, s, hs => by simp [scopesIn] at hs
  | e :: es, hu, s, hs => by
    simp only [uniqueNestingIn, Bool.and_eq_true] at hu
    obtain ⟨⟨hfresh, hue⟩, hues⟩ := hu
    have hsep := scopes_separate path hfresh
    rw [scopesIn, List.filter_append, List.mem_append] at *
    rcases hs with hs | hs
    · rw [Entity.filter_scopes path e hue s hs, List.filter_eq_nil_iff.2 fun t' ht' => by
        simp [(hsep s hs t' ht').1], List.append_nil]
    · rw [filter_scopesIn path es hues s hs, List.filter_eq_nil_iff.2 fun t ht => by
        simp [(hsep t ht s hs).2], List.nil_append]
end

mutual
theorem Entity.scopes_nodup (path : List (List Char)) : ∀ e : Entity, e.uniqueNesting = true →
    ((e.scopes path).map Prod.fst).Nodup
  | .nested n _ false ms, hu => by
    rw [Entity.uniqueNesting] at hu
    rw [Entity.scopes, List.map_cons, List.nodup_cons]
    refine ⟨fun h => ?_, scopesIn_nodup (path ++ [n]) ms hu⟩
    obtain ⟨s, hs, hs1⟩ := List.mem_map.1 h
    obtain ⟨_, r, -, h'⟩ := scopesIn_path _ ms s hs
    simpa [hs1] using congrArg List.length h'
  | .nested _ _ true _, _ | .struct .., _ | .enum .., _ | .interface .., _ => by simp [Entity.scopes]

/-- When sibling namespaces have distinct names, no two namespaces have one path. -/
theorem scopesIn_nodup (path : List (List Char)) : ∀ ms : List Entity, uniqueNestingIn ms = true →
    ((scopesIn path ms).map Prod.fst).Nodup
  | [], _ => List.nodup_nil
  | e :: es, hu => by
    simp only [uniqueNestingIn, Bool.and_eq_true] at hu
    rw [scopesIn, List.map_append, List.nodup_append]
    refine ⟨Entity.scopes_nodup path e hu.1.2, scopesIn_nodup path es hu.2, fun x hx hx' => ?_⟩
    obtain ⟨t, ht, rfl⟩ := List.mem_map.1 hx
    obtain ⟨t', ht', he⟩ := List.mem_map.1 hx'
    have h := (scopes_separate path hu.1.1 t ht t' ht').2
    rw [he, List.isPrefixOf_iff_prefix.2 (List.prefix_refl _)] at h
    exact Bool.noConfusion h
end

mutual
theorem Entity.scopes_noImports (path : List (List Char)) : ∀ (e : Entity), e.noImports = true →
    ∀ s ∈ e.scopes path, noImportsIn s.2 = true
  | .nested n _ false ms, h, s, hs => by
    rw [Entity.noImports, Bool.and_eq_true] at h
    rw [Entity.scopes, List.mem_cons] at hs
    rcases hs with rfl | hs
    · exact h.2
    · exact scopesIn_noImports (path ++ [n]) ms h.2 s hs
  | .nested _ _ true _, _, _, hs | .struct .., _, _, hs | .enum .., _, _, hs | .interface .., _, _, hs => by
    simp [Entity.scopes] at hs

theorem scopesIn_noImports (path : List (List Char)) : ∀ (ms : List Entity), noImportsIn ms = true →
    ∀ s ∈ scopesIn path ms, noImportsIn s.2 = true
  | [], _, s, hs => by simp [scopesIn] at hs
  | e :: es, h, s, hs => by
    rw [noImportsIn, Bool.and_eq_true] at h
    rw [scopesIn, List.mem_append] at hs
    exact hs.elim (Entity.scopes_noImports path e h.1 s) (scopesIn_noImports path es h.2 s)
end

theorem filterMap_interfaceElement : ∀ {ms : List Entity}, noImportsIn ms = true →
    ms.filterMap Entity.interfaceElement = ms.filterMap Entity.interfaceMember
  | [], _ => rfl
  | e :: es, h => by
    rw [noImportsIn, Bool.and_eq_true] at h
    rw [List.filterMap_cons, List.filterMap_cons, filterMap_interfaceElement h.2]
    cases e <;> simp_all [Entity.noImports, Entity.interfaceElement, Entity.interfaceMember]

mutual
theorem Entity.collectTemplateInstantiations_eq (path : List (List Char)) : ∀ (e : Entity), e.noImports = true →
    ∀ insts, e.collectTemplateInstantiations insts =
      ((e.scopes path).flatMap fun s => interfaceInstantiations (declOf s.1 s.2).interfaces).foldl
        insertInstantiation insts
  | .nested n _ false ms, h, insts => by
    rw [Entity.noImports, Bool.and_eq_true] at h
    rw [Entity.collectTemplateInstantiations, Entity.scopes, List.flatMap_cons, List.foldl_append,
      filterMap_interfaceElement h.2, collectNested_eq (path ++ [n]) ms h.2]
    rfl
  | .nested _ _ true _, h, _ => by simp [Entity.noImports] at h
  | .struct .., _, _ | .enum .., _, _ | .interface .., _, _ => by
    simp [Entity.collectTemplateInstantiations, Entity.scopes]

/-- **The recursive collection is one fold.**  Without imports,
`collect_template_instantiations` inserts the instantiations of the namespaces
below in the order of the walk. -/
theorem collectNested_eq (path : List (List Char)) : ∀ (ms : List Entity), noImportsIn ms = true →
    ∀ insts, collectNested ms insts =
      ((scopesIn path ms).flatMap fun s => interfaceInstantiations (declOf s.1 s.2).interfaces).foldl
        insertInstantiation insts
  | [], _, _ => rfl
  | e :: es, h, insts => by
    rw [noImportsIn, Bool.and_eq_true] at h
    rw [collectNested, Entity.collectTemplateInstantiations_eq path e h.1, collectNested_eq path es h.2, scopesIn,
      List.flatMap_append, List.foldl_append]
end

/-- In the flat tree, `collect_template_instantiations` of a namespace reads the
namespaces whose path extends its own; when sibling namespaces have distinct
names and there are no imports, those are the ones the walk visits below it. -/
theorem collectTemplateInstantiations_treeOf {root : List Entity} (hi : noImportsIn root = true)
    (hu : uniqueNestingIn root = true) {s : List (List Char) × List Entity} (hs : s ∈ scopesIn [] root) :
    collectTemplateInstantiations (treeOf root) (declOf s.1 s.2) = collectMembers s.2 [] := by
  obtain ⟨n, r, -, hpath⟩ := scopesIn_path [] root s hs
  have hsi := scopesIn_noImports [] root hi s hs
  rw [collectMembers, filterMap_interfaceElement hsi, collectNested_eq s.1 s.2 hsi, ← List.foldl_append]
  simp only [collectTemplateInstantiations, treeOf, List.filter_map, List.flatMap_map, Function.comp_def]
  rw [List.filter_cons, if_neg (by simp [declOf, hpath])]
  simp only [declOf]
  rw [filter_scopesIn [] root hu s hs, List.flatMap_cons]
  rfl

theorem perm_flatMap_append {α β : Type} (f g : α → List β) :
    ∀ l : List α, (l.flatMap fun a => f a ++ g a).Perm (l.flatMap f ++ l.flatMap g)
  | [] => .nil
  | a :: l => by
    simp only [List.flatMap_cons, List.append_assoc]
    exact (((perm_flatMap_append f g l).append_left (g a)).append_left (f a)).trans
      ((List.perm_append_comm_assoc _ _ _).symm.append_left (f a))

/-- The definitions of a namespace's members, in member order, are its
messages, enums and services', kind by kind. -/
theorem defines_perm (path : List (List Char)) (ms : List Entity) :
    (ms.flatMap (Entity.defines path)).Perm ((ms.filterMap Entity.structMember).map (fun s => sanitizeTypeName s.name) ++
      (ms.filterMap Entity.enumMember).map sanitizeTypeName ++
        (ms.filterMap Entity.interfaceMember).flatMap fun i => serviceMessages (serviceInterfaceName path i.name) i) := by
  have h : ms.flatMap (Entity.defines path) = ms.flatMap fun e =>
      (e.structMember.toList.map fun s => sanitizeTypeName s.name) ++ e.enumMember.toList.map sanitizeTypeName ++
        e.interfaceMember.toList.flatMap fun i => serviceMessages (serviceInterfaceName path i.name) i :=
    List.flatMap_congr fun e _ => by
      rcases e with ⟨_, _, _, _⟩ | ⟨_, _ | _, _ | _⟩ | ⟨_, _ | _⟩ | ⟨_, _ | _⟩ <;>
        simp [Entity.defines, Entity.structMember, Entity.enumMember, Entity.interfaceMember]
  rw [h, List.filterMap_eq_flatMap_toList, List.filterMap_eq_flatMap_toList, List.filterMap_eq_flatMap_toList,
    List.map_flatMap, List.map_flatMap, List.flatMap_assoc]
  exact (perm_flatMap_append _ _ ms).trans ((perm_flatMap_append _ _ ms).append_right _)

/-- The same for the field types. -/
theorem fieldTypes_perm (ms : List Entity) :
    (ms.flatMap Entity.fieldTypes).Perm ((ms.filterMap Entity.structMember).flatMap (fun s =>
      (s.fields.filter fun fd => !fd.isStatic).map fun fd => messageFieldType fd.type) ++
      (ms.filterMap Entity.interfaceMember).flatMap fun i => i.methods.flatMap serviceFieldTypes) := by
  have h : ms.flatMap Entity.fieldTypes = ms.flatMap fun e =>
      (e.structMember.toList.flatMap fun s => (s.fields.filter fun fd => !fd.isStatic).map
        fun fd => messageFieldType fd.type) ++ e.interfaceMember.toList.flatMap fun i => i.methods.flatMap serviceFieldTypes :=
    List.flatMap_congr fun e _ => by
      rcases e with ⟨_, _, _, _⟩ | ⟨_, _ | _, _ | _⟩ | ⟨_, _ | _⟩ | ⟨_, _ | _⟩ <;>
        simp [Entity.fieldTypes, Entity.structMember, Entity.interfaceMember]
  rw [h, List.filterMap_eq_flatMap_toList, List.filterMap_eq_flatMap_toList, List.flatMap_assoc, List.flatMap_assoc]
  exact perm_flatMap_append _ _ ms

/-- Two files that declare the same: one package, one `rpc.proto` import, and the
same definitions and field types, in any order. -/
structure SchemaFile.Equiv (f g : SchemaFile) : Prop where
  package : f.package = g.package
  importsRpc : f.importsRpc = g.importsRpc
  defines : f.defines.Perm g.defines
  fieldTypes : f.fieldTypes.Perm g.fieldTypes

theorem forall₂_filterMap {α β γ : Type} {R : β → γ → Prop} {f : α → Option β} {g : α → Option γ} :
    ∀ {l : List α}, (∀ a ∈ l, Option.Rel R (f a) (g a)) → List.Forall₂ R (l.filterMap f) (l.filterMap g)
  | [], _ => .nil
  | a :: l, h => by
    have ih := forall₂_filterMap (l := l) fun b hb => h b (List.mem_cons_of_mem _ hb)
    have h0 := h a (List.mem_cons_self _ _)
    rw [List.filterMap_cons, List.filterMap_cons]
    cases hf : f a <;> cases hg : g a <;> rw [hf, hg] at h0 <;> cases h0
    · exact ih
    · exact .cons ‹_› ih

/-- **The walk writes the flat tree's files.**  For an IDL without imports whose
sibling namespaces have distinct names, the files `write_single_namespace`
writes are those of `writeFiles` on the flat tree, in the same order, each
with the same definitions and field types up to their order. -/
theorem writeNamespaces_refines (subDirectory : List Char) (root : List Entity)
    (hi : noImportsIn root = true) (hu : uniqueNestingIn root = true) :
    List.Forall₂ SchemaFile.Equiv ((writeNamespaces subDirectory [] root ⟨[], []⟩).files.map Prod.snd)
      (writeFiles (treeOf root)) := by
  have hfiles : (writeNamespaces subDirectory [] root ⟨[], []⟩).files =
      (scopesIn [] root).filterMap (namedFile subDirectory) :=
    writeNamespaces_files subDirectory [] root ⟨[], []⟩
  have hflat : writeFiles (treeOf root) =
      (scopesIn [] root).filterMap fun s => writeSingleNamespace (treeOf root) (declOf s.1 s.2) := by
    show ((([], root) :: scopesIn [] root).map fun s => declOf s.1 s.2).filterMap
      (writeSingleNamespace (treeOf root)) = _
    rw [List.filterMap_map, List.filterMap_cons]
    rw [show (writeSingleNamespace (treeOf root) ∘ fun s => declOf s.1 s.2) ([], root) = none by
      simp [writeSingleNamespace, getNamespaceName, declOf]]
    rfl
  rw [hfiles, List.map_filterMap, hflat]
  refine forall₂_filterMap fun s hs => ?_
  have hsi := scopesIn_noImports [] root hi s hs
  have hinst : instantiatedHere (treeOf root) (declOf s.1 s.2) = instantiatedIn s.2 (collectMembers s.2 []) := by
    rw [instantiatedHere, collectTemplateInstantiations_treeOf hi hu hs]; rfl
  by_cases h : (getNamespaceName s.1).isEmpty
  · simp only [namedFile, writeSingleNamespace, declOf, h, if_true, Option.map_none']
    exact .none
  · simp only [namedFile, writeSingleNamespace, declOf_path, h, if_false, Option.map_some', Bool.false_eq_true]
    refine Option.Rel.some ⟨rfl, by simp only [namespaceFile, filterMap_interfaceElement hsi, declOf], ?_, ?_⟩
    · simp only [namespaceFile, hinst]
      exact ((defines_perm s.1 s.2).append_left _).trans (.of_eq (by simp only [declOf, List.append_assoc]))
    · simp only [namespaceFile, hinst]
      exact ((fieldTypes_perm s.2).append_left _).trans (.of_eq (by simp only [declOf, List.append_assoc]))

theorem writeNamespaces_refines_colour :
    noImportsIn [.nested "a".toList false false [.struct ⟨"point".toList, [⟨"x".toList, "int".toList, false⟩]⟩
      false false, .nested "b".toList false false [.enum "colour".toList false]]] = true ∧
    uniqueNestingIn [.nested "a".toList false false [.struct ⟨"point".toList, [⟨"x".toList, "int".toList, false⟩]⟩
      false false, .nested "b".toList false false [.enum "colour".toList false]]] = true ∧
    List.Forall₂ SchemaFile.Equiv ((writeNamespaces "p".toList [] [.nested "a".toList false false
      [.struct ⟨"point".toList, [⟨"x".toList, "int".toList, false⟩]⟩ false false,
        .nested "b".toList false false [.enum "colour".toList false]]] ⟨[], []⟩).files.map Prod.snd)
      (writeFiles (treeOf [.nested "a".toList false false [.struct ⟨"point".toList, [⟨"x".toList, "int".toList,
        false⟩]⟩ false false, .nested "b".toList false false [.enum "colour".toList false]]])) :=
  ⟨by decide, by decide, writeNamespaces_refines _ _ (by decide) (by decide)⟩

/-! ### `write_namespace_protobuf_cpp` -/

/-- A block of the C++ `write_cpp_files` writes: a line opening a namespace, a
line closing one, or the serialisers of a struct, of a template instantiation or
of an interface's methods, with the protobuf package they name. -/
inductive CppBlock where
  | openNamespace (name : List Char) (isInline : Bool)
  | closeNamespace
  | structSerialisers (package : List Char) (decl : StructDecl)
  | templateSerialisers (package : List Char) (inst : TemplateInstantiation) (decl : StructDecl)
  | interfaceSerialisers (package : List Char) (decl : InterfaceDecl)
  deriving DecidableEq, Repr

/-- The end of `write_namespace_protobuf_cpp` on the namespace at `path` with
members `ms`: its template instantiations, then its interfaces outside imports,
all naming `get_namespace_name(lib)`. -/
def instantiationAndInterfaceBlocks (path : List (List Char)) (ms : List Entity) : List CppBlock :=
  (instantiatedIn ms (collectMembers ms [])).map (fun it => .templateSerialisers (getNamespaceName path) it.1 it.2) ++
    (ms.filterMap Entity.interfaceMember).map (.interfaceSerialisers (getNamespaceName path))

mutual
/-- The first pass of `write_namespace_protobuf_cpp` on a member of the namespace
at `path`: a nested namespace outside imports is written inside its own block,
a struct outside imports that is not a template gets its serialisers. -/
def Entity.writeNamespaceProtobufCpp (path : List (List Char)) : Entity → List CppBlock
  | .nested n inl false ms =>
    .openNamespace n inl ::
      (firstPass (path ++ [n]) ms ++ instantiationAndInterfaceBlocks (path ++ [n]) ms) ++ [.closeNamespace]
  | .struct s false false => [.structSerialisers (getNamespaceName path) s]
  | _ => []

/-- The first pass of `write_namespace_protobuf_cpp` over the members `ms`. -/
def firstPass (path : List (List Char)) : List Entity → List CppBlock
  | [] => []
  | e :: es => e.writeNamespaceProtobufCpp path ++ firstPass path es
end

/-- `write_namespace_protobuf_cpp` on the namespace at `path` with members `ms`. -/
def namespaceProtobufCpp (path : List (List Char)) (ms : List Entity) : List CppBlock :=
  firstPass path ms ++ instantiationAndInterfaceBlocks path ms

/-- `write_cpp_files`: `write_namespace_protobuf_cpp` from the root, whose name is
empty. -/
def writeCppFiles (root : List Entity) : List CppBlock :=
  namespaceProtobufCpp [] root

/-- The package a serialiser block names. -/
def CppBlock.package : CppBlock → Option (List Char)
  | structSerialisers p _ | templateSerialisers p _ _ | interfaceSerialisers p _ => some p
  | _ => none

/-! ### The two walks agree -/

/-- The protobuf messages a block of C++ names. -/
def CppBlock.messages : CppBlock → List (List Char)
  | structSerialisers _ s => [sanitizeTypeName s.name]
  | templateSerialisers _ inst _ => [inst.concreteName]
  | interfaceSerialisers _ i => serviceMessages i.name i
  | _ => []

/-- The blocks at the end of a namespace's C++ name its package, and messages
its file defines when the namespace has a name of its own. -/
theorem instantiationAndInterfaceBlocks_defined {path : List (List Char)} {ms : List Entity} {b : CppBlock}
    (hb : b ∈ instantiationAndInterfaceBlocks path ms) :
    b.package = some (getNamespaceName path) ∧ (path ≠ [] → (∀ n ∈ path.getLast?, n ≠ []) →
      ∀ x ∈ b.messages, x ∈ (namespaceFile path ms).defines) := by
  simp only [instantiationAndInterfaceBlocks, List.mem_append, List.mem_map] at hb
  rcases hb with ⟨it, hit, rfl⟩ | ⟨i, hi, rfl⟩
  · refine ⟨rfl, fun _ _ x hx => List.mem_append_left _ ?_⟩
    rw [CppBlock.messages, List.mem_singleton] at hx
    exact hx ▸ List.mem_map_of_mem _ hit
  · obtain ⟨e, he, hei⟩ := List.mem_filterMap.1 hi
    refine ⟨rfl, fun hp hown x hx => List.mem_append_right _ (List.mem_flatMap.2 ⟨e, he, ?_⟩)⟩
    have hname := serviceInterfaceName_of_named hp hown
    rcases e with _ | _ | _ | ⟨_, _ | _⟩ <;>
      simp_all [Entity.interfaceMember, Entity.defines, CppBlock.messages]

/-- Where a serialiser block of the C++ comes from: the namespace it is written
for, whose package it names and, when the namespace has a name of its own,
whose file defines the messages it names. -/
def BlockOf (b : CppBlock) (s : List (List Char) × List Entity) : Prop :=
  b.package = some (getNamespaceName s.1) ∧
    (s.1 ≠ [] → (∀ n ∈ s.1.getLast?, n ≠ []) → ∀ x ∈ b.messages, x ∈ (namespaceFile s.1 s.2).defines)

mutual
theorem Entity.writeNamespaceProtobufCpp_blockOf (path : List (List Char)) : ∀ (e : Entity),
    ∀ b ∈ e.writeNamespaceProtobufCpp path, (b.package).isSome →
      (∃ s ∈ e.scopes path, BlockOf b s) ∨
        (b.package = some (getNamespaceName path) ∧ ∀ x ∈ b.messages, x ∈ e.defines path)
  | .nested n _ false ms, b, hb, hp => by
    simp only [Entity.writeNamespaceProtobufCpp, List.mem_append, List.mem_cons, List.not_mem_nil, or_false] at hb
    rcases hb with (rfl | hb | hb) | rfl
    · simp [CppBlock.package] at hp
    · rcases firstPass_blockOf (path ++ [n]) ms b hb hp with ⟨s, hs, hbs⟩ | ⟨hpk, hx⟩
      · exact .inl ⟨s, List.mem_cons_of_mem _ hs, hbs⟩
      · exact .inl ⟨_, List.mem_cons_self _ _, hpk, fun _ _ x h => List.mem_append_right _ (hx x h)⟩
    · exact .inl ⟨_, List.mem_cons_self _ _, instantiationAndInterfaceBlocks_defined hb⟩
    · simp [CppBlock.package] at hp
  | .struct _ false false, b, hb, _ => by
    rw [Entity.writeNamespaceProtobufCpp, List.mem_singleton] at hb
    exact .inr ⟨by rw [hb]; rfl, fun x hx => by simpa [hb, CppBlock.messages, Entity.defines] using hx⟩
  | .nested _ _ true _, _, hb, _ | .struct _ true _, _, hb, _ | .struct _ false true, _, hb, _
  | .enum .., _, hb, _ | .interface .., _, hb, _ => by simp [Entity.writeNamespaceProtobufCpp] at hb

theorem firstPass_blockOf (path : List (List Char)) : ∀ (ms : List Entity),
    ∀ b ∈ firstPass path ms, (b.package).isSome →
      (∃ s ∈ scopesIn path ms, BlockOf b s) ∨
        (b.package = some (getNamespaceName path) ∧ ∀ x ∈ b.messages, x ∈ ms.flatMap (Entity.defines path))
  | [], b, hb, _ => by simp [firstPass] at hb
  | e :: es, b, hb, hp => by
    rw [firstPass, List.mem_append] at hb
    rw [scopesIn, List.flatMap_cons]
    rcases hb with hb | hb
    · rcases Entity.writeNamespaceProtobufCpp_blockOf path e b hb hp with ⟨s, hs, hbs⟩ | ⟨hpk, hx⟩
      · exact .inl ⟨s, List.mem_append_left _ hs, hbs⟩
      · exact .inr ⟨hpk, fun x h => List.mem_append_left _ (hx x h)⟩
    · rcases firstPass_blockOf path es b hb hp with ⟨s, hs, hbs⟩ | ⟨hpk, hx⟩
      · exact .inl ⟨s, List.mem_append_right _ hs, hbs⟩
      · exact .inr ⟨hpk, fun x h => List.mem_append_right _ (hx x h)⟩
end

/-- Every serialiser block of `write_namespace_protobuf_cpp` on a namespace comes
from it or from a namespace below it. -/
theorem namespaceProtobufCpp_blockOf {path : List (List Char)} {ms : List Entity} {b : CppBlock}
    (hb : b ∈ namespaceProtobufCpp path ms) (hp : (b.package).isSome) :
    ∃ s ∈ (path, ms) :: scopesIn path ms, BlockOf b s := by
  rw [namespaceProtobufCpp, List.mem_append] at hb
  rcases hb with hb | hb
  · rcases firstPass_blockOf path ms b hb hp with ⟨s, hs, hbs⟩ | ⟨hpk, hx⟩
    · exact ⟨s, List.mem_cons_of_mem _ hs, hbs⟩
    · exact ⟨_, List.mem_cons_self _ _, hpk, fun _ _ x h => List.mem_append_right _ (hx x h)⟩
  · exact ⟨_, List.mem_cons_self _ _, instantiationAndInterfaceBlocks_defined hb⟩

theorem schemaFilePath_injective (subDirectory : List Char) : Function.Injective (schemaFilePath subDirectory) :=
  fun a b h => by simpa [schemaFilePath_eq] using h

theorem map_fst_filterMap_namedFile (subDirectory : List Char) :
    ∀ l : List (List (List Char) × List Entity), (l.filterMap (namedFile subDirectory)).map Prod.fst =
      ((l.map fun s => getNamespaceName s.1).filter (!·.isEmpty)).map (schemaFilePath subDirectory)
  | [] => rfl
  | s :: l => by
    rw [List.filterMap_cons, List.map_cons, List.filter_cons]
    by_cases h : (getNamespaceName s.1).isEmpty
    · simp only [namedFile, h, if_true, Bool.not_true, Bool.false_eq_true]
      exact map_fst_filterMap_namedFile subDirectory l
    · simp [namedFile, h, map_fst_filterMap_namedFile subDirectory l]

theorem finalFile_eq {w : Written} {file : List Char} {f : SchemaFile}
    (hnd : (w.files.map Prod.fst).Nodup) (h : (file, f) ∈ w.files) : w.finalFile file = some f := by
  unfold Written.finalFile
  cases hf : w.files.reverse.find? (·.1 == file) with
  | none => exact absurd (List.find?_eq_none.1 hf (file, f) (List.mem_reverse.2 h)) (by simp)
  | some y =>
    have hy := List.mem_reverse.1 (List.mem_of_find?_eq_some hf)
    have hk : y.1 = file := by simpa using List.find?_some hf
    rw [List.inj_on_of_nodup_map hnd hy h hk]
    rfl

/-- When no two namespaces share a flattened name, the final file of a namespace
with a name is the one the walk wrote for it. -/
theorem finalFile_scope {subDirectory : List Char} {root : List Entity}
    (hnames : (((scopesIn [] root).map fun s => getNamespaceName s.1).filter (!·.isEmpty)).Nodup)
    {s : List (List Char) × List Entity} (hs : s ∈ scopesIn [] root) (hne : getNamespaceName s.1 ≠ []) :
    (writeNamespaces subDirectory [] root ⟨[], []⟩).finalFile (schemaFilePath subDirectory (getNamespaceName s.1)) =
      some (namespaceFile s.1 s.2) := by
  have hfiles : (writeNamespaces subDirectory [] root ⟨[], []⟩).files =
      (scopesIn [] root).filterMap (namedFile subDirectory) :=
    writeNamespaces_files subDirectory [] root ⟨[], []⟩
  refine finalFile_eq ?_ ?_
  · rw [hfiles, map_fst_filterMap_namedFile]
    exact hnames.map (schemaFilePath_injective subDirectory)
  · rw [hfiles]
    exact List.mem_filterMap.2 ⟨s, hs, by simp [namedFile, hne]⟩

/-- **The C++ names what the schema defines.**  When no namespace is unnamed and
no two share a flattened name, every message the C++ of a namespace with a name
refers to (a struct's message, an instantiation's, a method's request and
response) is defined, with the package it names, in the final file of that
package. -/
theorem writeCppFiles_defined (subDirectory : List Char) (root : List Entity)
    (hnamed : ∀ s ∈ scopesIn [] root, ∀ n ∈ s.1, n ≠ [])
    (hnames : (((scopesIn [] root).map fun s => getNamespaceName s.1).filter (!·.isEmpty)).Nodup) :
    ∀ b ∈ writeCppFiles root, ∀ pkg, b.package = some pkg → pkg ≠ [] → ∀ x ∈ b.messages,
      ∃ f, (writeNamespaces subDirectory [] root ⟨[], []⟩).finalFile (schemaFilePath subDirectory pkg) = some f ∧
        f.package = "protobuf.".toList ++ pkg ∧ x ∈ f.defines := by
  intro b hb pkg hpkg hne x hx
  obtain ⟨s, hs, hbs, hdef⟩ := namespaceProtobufCpp_blockOf hb (by simp [hpkg])
  rw [hpkg, Option.some.injEq] at hbs
  subst hbs
  rcases List.mem_cons.1 hs with rfl | hs
  · exact absurd rfl hne
  obtain ⟨n, r, -, hpath⟩ := scopesIn_path [] root s hs
  have hp : s.1 ≠ [] := by simp [hpath]
  exact ⟨_, finalFile_scope hnames hs hne, rfl,
    hdef hp (fun m hm => hnamed s hs m (List.mem_of_getLast?_eq_some hm)) x hx⟩

theorem writeCppFiles_defined_point :
    ∃ f, (writeNamespaces "p".toList [] [.nested "a".toList false false
        [.struct ⟨"point".toList, [⟨"x".toList, "int".toList, false⟩]⟩ false false]] ⟨[], []⟩).finalFile
        (schemaFilePath "p".toList "a".toList) = some f ∧
      f.package = "protobuf.".toList ++ "a".toList ∧ "point".toList ∈ f.defines :=
  writeCppFiles_defined "p".toList _ (by decide) (by decide)
    (.structSerialisers "a".toList ⟨"point".toList, [⟨"x".toList, "int".toList, false⟩]⟩) (by decide)
    "a".toList rfl (by decide) "point".toList (by decide)

/-- Without distinct flattened names: `a::b` and `a_b` both write `a_b.proto`,
the second replaces the first, and the C++ of `a::b` names
`protobuf::a_b::colour`, which the final file does not define. -/
example :
    CppBlock.structSerialisers "a_b".toList ⟨"colour".toList, []⟩ ∈ writeCppFiles
      [.nested "a".toList false false [.nested "b".toList false false [.struct ⟨"colour".toList, []⟩ false false]],
        .nested "a_b".toList false false [.struct ⟨"shade".toList, []⟩ false false]] ∧
    ((writeNamespaces "p".toList []
      [.nested "a".toList false false [.nested "b".toList false false [.struct ⟨"colour".toList, []⟩ false false]],
        .nested "a_b".toList false false [.struct ⟨"shade".toList, []⟩ false false]] ⟨[], []⟩).finalFile
      (schemaFilePath "p".toList "a_b".toList)).map SchemaFile.defines = some ["shade".toList] := by
  decide

/-! ### Flattened names

`get_namespace_name` joins a path with `_`, so that `a::b` and `a_b` meet. When
no name is empty or has a `_`, the first name of a path is what comes before
the first `_`, and the join can be undone. -/

theorem foldl_namespaceName (p : List (List Char)) : ∀ {acc : List Char}, acc ≠ [] →
    p.foldl (fun pre n => (if pre.isEmpty then pre else pre ++ ['_']) ++ n) acc = acc ++ p.flatMap ('_' :: ·) := by
  induction p with
  | nil => simp
  | cons n p ih =>
    intro acc hacc
    rw [List.foldl_cons, if_neg (by simpa using hacc), ih (by simp)]
    simp

theorem getNamespaceName_cons {n : List Char} (hn : n ≠ []) (p : List (List Char)) :
    getNamespaceName (n :: p) = n ++ p.flatMap ('_' :: ·) :=
  foldl_namespaceName p hn

theorem takeWhile_namespaceName {n : List Char} (hn : '_' ∉ n) (p : List (List Char)) :
    (n ++ p.flatMap ('_' :: ·)).takeWhile (· != '_') = n := by
  rw [List.takeWhile_append_of_pos fun a ha => by simpa using ne_of_mem_of_not_mem ha hn]
  cases p <;> simp

theorem append_flatMap_inj {n m : List Char} (hn : '_' ∉ n) (hm : '_' ∉ m) {p q : List (List Char)}
    (h : n ++ p.flatMap ('_' :: ·) = m ++ q.flatMap ('_' :: ·)) :
    n = m ∧ p.flatMap ('_' :: ·) = q.flatMap ('_' :: ·) := by
  have hnm : n = m := by
    simpa only [takeWhile_namespaceName hn, takeWhile_namespaceName hm] using
      congrArg (List.takeWhile (· != '_')) h
  exact ⟨hnm, List.append_cancel_left (hnm ▸ h)⟩

theorem flatMap_namespaceName_inj : ∀ {p q : List (List Char)}, (∀ a ∈ p, '_' ∉ a) → (∀ a ∈ q, '_' ∉ a) →
    p.flatMap ('_' :: ·) = q.flatMap ('_' :: ·) → p = q
  | [], [], _, _, _ => rfl
  | [], _ :: _, _, _, h | _ :: _, [], _, _, h => by simp at h
  | a :: p, b :: q, hp, hq, h => by
    simp only [List.flatMap_cons, List.cons_append, List.cons.injEq, true_and] at h
    obtain ⟨rfl, h'⟩ := append_flatMap_inj (hp a (List.mem_cons_self _ _)) (hq b (List.mem_cons_self _ _)) h
    rw [flatMap_namespaceName_inj (fun x hx => hp x (List.mem_cons_of_mem _ hx))
      (fun x hx => hq x (List.mem_cons_of_mem _ hx)) h']

theorem getNamespaceName_cons_ne_nil {n : List Char} (hn : n ≠ []) (p : List (List Char)) :
    getNamespaceName (n :: p) ≠ [] := by
  simp [getNamespaceName_cons hn, hn]

/-- `get_namespace_name` tells apart paths whose names are nonempty and have no `_`. -/
theorem getNamespaceName_inj : ∀ {p q : List (List Char)}, (∀ n ∈ p, n ≠ [] ∧ '_' ∉ n) →
    (∀ n ∈ q, n ≠ [] ∧ '_' ∉ n) → getNamespaceName p = getNamespaceName q → p = q
  | [], [], _, _, _ => rfl
  | [], m :: q, _, hq, h => (getNamespaceName_cons_ne_nil (hq m (List.mem_cons_self _ _)).1 q h.symm).elim
  | n :: p, [], hp, _, h => (getNamespaceName_cons_ne_nil (hp n (List.mem_cons_self _ _)).1 p h).elim
  | n :: p, m :: q, hp, hq, h => by
    rw [getNamespaceName_cons (hp n (List.mem_cons_self _ _)).1,
      getNamespaceName_cons (hq m (List.mem_cons_self _ _)).1] at h
    refine flatMap_namespaceName_inj (fun a ha => (hp a ha).2) (fun a ha => (hq a ha).2) ?_
    simp only [List.flatMap_cons, List.cons_append, h]

/-- When sibling namespaces have distinct names and no name is empty or has a
`_`, no two namespaces share a flattened name. -/
theorem namespaceNames_nodup {root : List Entity} (hu : uniqueNestingIn root = true)
    (hplain : ∀ s ∈ scopesIn [] root, ∀ n ∈ s.1, n ≠ [] ∧ '_' ∉ n) :
    ((scopesIn [] root).map fun s => getNamespaceName s.1).Nodup := by
  have hnd := scopesIn_nodup [] root hu
  exact (hnd.of_map _).map_on fun s hs t ht h =>
    List.inj_on_of_nodup_map hnd hs ht (getNamespaceName_inj (hplain s hs) (hplain t ht) h)

/-- **No schema file is overwritten.**  When sibling namespaces have distinct
names and no namespace name is empty or has a `_`, the final file of every
namespace is the one `write_single_namespace` wrote for it. -/
theorem writeNamespaces_finalFile (subDirectory : List Char) (root : List Entity)
    (hu : uniqueNestingIn root = true) (hplain : ∀ s ∈ scopesIn [] root, ∀ n ∈ s.1, n ≠ [] ∧ '_' ∉ n) :
    ∀ s ∈ scopesIn [] root, (writeNamespaces subDirectory [] root ⟨[], []⟩).finalFile
      (schemaFilePath subDirectory (getNamespaceName s.1)) = some (namespaceFile s.1 s.2) := by
  intro s hs
  obtain ⟨n, r, -, hpath⟩ := scopesIn_path [] root s hs
  refine finalFile_scope ((namespaceNames_nodup hu hplain).filter _) hs ?_
  rw [hpath, List.nil_append]
  exact getNamespaceName_cons_ne_nil (hplain s hs n (by simp [hpath])).1 r

theorem writeNamespaces_finalFile_b :
    (writeNamespaces "p".toList [] [.nested "a".toList false false
        [.struct ⟨"point".toList, [⟨"x".toList, "int".toList, false⟩]⟩ false false,
          .nested "b".toList false false [.enum "colour".toList false]]] ⟨[], []⟩).finalFile
        (schemaFilePath "p".toList (getNamespaceName ["a".toList, "b".toList])) =
      some (namespaceFile ["a".toList, "b".toList] [.enum "colour".toList false]) :=
  writeNamespaces_finalFile _ _ (by decide) (by decide) (["a".toList, "b".toList], [.enum "colour".toList false])
    (List.mem_cons_of_mem _ (List.mem_cons_self _ _))

end Protobuf
end Canopy
