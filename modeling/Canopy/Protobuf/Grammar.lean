/-
# The type grammar of the IDL, and what `cpp_type_to_proto_type` makes of it

The types an IDL writes for parameters and struct fields: the scalar
spellings of `scalarRows`, pointers `T*`, `std::vector<T>`,
`std::array<T, N>`, the three map templates, `rpc::shared_ptr<I>` and
`rpc::optimistic_ptr<I>`, and user type names, each with an optional leading
`const ` and trailing `&`.  `CppType.render` writes a type the way the IDL
parser hands it to the generator; a rendered type is balanced and keeps its
commas inside brackets (`render_nested`), so both bracket scans read through it.

`CppType.project` is the parameter-kind projection of the spec (§4.4)
composed over the grammar: scalars by the scalar table, a pointer as the
`uint64` address, a vector of a byte spelling as `bytes`, sequences as
`repeated`, maps as `map<K, V>`, interface pointers as
`rpc.interface_descriptor`.  `IsFieldType` is what proto3 accepts as the
type of a field: one `repeated` at most, map keys integral, `bool` or
`string`, map values neither repeated nor maps.

What the code does: `cpp_type_to_proto_type` looks for a `*` anywhere in the
text, so a type that mentions a pointer anywhere, even inside a container
argument, is one `uint64` address (`cppTypeToProtoType_pointer`); it cuts the
text at its first `&`, which is right only when the `&` is the last
character; and it composes containers with no check on what they hold, so a
container of containers or a map keyed by a `float` is not a proto3 field
type.  For every other type the result is the projection
(`cppTypeToProtoType_project`), and a valid field type as long as no container
holds a container, every map key is an integral, `bool` or `string` scalar and
no user type name is qualified (`project_isFieldType`).
-/

import Canopy.Protobuf.Scan

namespace Canopy
namespace Protobuf

/-- The map templates `is_map_type` recognizes. -/
inductive MapKind
  | map
  | unorderedMap
  | flatMap
  deriving DecidableEq, Repr

/-- The two interface pointer templates. -/
inductive PtrKind
  | shared
  | optimistic
  deriving DecidableEq, Repr

/-- The template name of a map kind, without its `<`. -/
def MapKind.name : MapKind → List Char
  | .map => "std::map".toList
  | .unorderedMap => "std::unordered_map".toList
  | .flatMap => "std::flat_map".toList

/-- The template name of an interface pointer kind, without its `<`. -/
def PtrKind.name : PtrKind → List Char
  | .shared => "rpc::shared_ptr".toList
  | .optimistic => "rpc::optimistic_ptr".toList

/-- A C++ type expression of the IDL. -/
inductive CppType
  | scalar (spelling : List Char)
  | pointer (t : CppType)
  | vector (t : CppType)
  | array (t : CppType) (size : List Char)
  | map (kind : MapKind) (key value : CppType)
  | iface (kind : PtrKind) (name : List Char)
  | user (name : List Char)
  | const (t : CppType)
  | ref (t : CppType)
  deriving DecidableEq, Repr

namespace CppType

/-- The text of a type, as the IDL parser passes it to the generator. -/
def render : CppType → List Char
  | scalar s => s
  | pointer t => t.render ++ ['*']
  | vector t => "std::vector".toList ++ '<' :: (t.render ++ ['>'])
  | array t n => "std::array".toList ++ '<' :: (t.render ++ ", ".toList ++ n ++ ['>'])
  | map m k v => m.name ++ '<' :: (k.render ++ ", ".toList ++ v.render ++ ['>'])
  | iface p n => p.name ++ '<' :: (n ++ ['>'])
  | user n => n
  | const t => "const ".toList ++ t.render
  | ref t => t.render ++ ['&']

end CppType

/-- Every spelling of the scalar table. -/
def scalarSpellings : List (List Char) :=
  scalarRows.flatMap fun r => r.1.map String.toList

/-- A user type or interface name: letters, digits, `_`, and the `:` of a
qualified name. -/
def isTypeName (n : List Char) : Bool :=
  !n.isEmpty && n.all fun c => c.isAlphanum || c == '_' || c == ':'

/-- The proto3 types a map key may have. -/
def protoKeyScalars : List (List Char) :=
  ["int32", "int64", "uint32", "uint64", "sint32", "sint64", "fixed32", "fixed64",
   "sfixed32", "sfixed64", "bool", "string"].map String.toList

namespace CppType

/-- The grammar: scalar spellings of the table, user names that are not scalar
spellings, array sizes that are a literal or a constant's name, and at most one
leading `const ` and one trailing `&` on each type. -/
def inGrammar : CppType → Bool
  | scalar s => decide (s ∈ scalarSpellings)
  | pointer t => t.inGrammar
  | vector t => t.inGrammar
  | array t n => t.inGrammar && !n.isEmpty && n.all fun c => c.isAlphanum || c == '_'
  | map _ k v => k.inGrammar && v.inGrammar
  | iface _ n => isTypeName n
  | user n => isTypeName n && !decide (n ∈ scalarSpellings)
  | const t => t.inGrammar && !"const ".toList.isPrefixOf t.render
  | ref t => t.inGrammar && t.render.getLast? != some '&'

/-- A pointer somewhere in the type: a `*` node, or a scalar spelling with a
`*` (`char*`, `const char *`). -/
def mentionsPointer : CppType → Bool
  | scalar s => decide ('*' ∈ s)
  | pointer _ => true
  | vector t => t.mentionsPointer
  | array t _ => t.mentionsPointer
  | map _ k v => k.mentionsPointer || v.mentionsPointer
  | iface _ _ => false
  | user _ => false
  | const t => t.mentionsPointer
  | ref t => t.mentionsPointer

/-- No `&` anywhere in the type. -/
def refFree : CppType → Bool
  | scalar _ => true
  | pointer t => t.refFree
  | vector t => t.refFree
  | array t _ => t.refFree
  | map _ k v => k.refFree && v.refFree
  | iface _ _ => true
  | user _ => true
  | const t => t.refFree
  | ref _ => false

/-- An `&` only on the outermost type, under its `const ` at most. -/
def outerRef : CppType → Bool
  | const t => t.outerRef
  | ref t => t.refFree
  | t => t.refFree

/-- A vector, an array or a map, under `const ` and `&`. -/
def isContainer : CppType → Bool
  | vector _ => true
  | array _ _ => true
  | map _ _ _ => true
  | const t => t.isContainer
  | ref t => t.isContainer
  | _ => false

/-- No container argument of the type is itself a container. -/
def flatArgs : CppType → Bool
  | scalar _ => true
  | pointer t => t.flatArgs
  | vector t => !t.isContainer && t.flatArgs
  | array t _ => !t.isContainer && t.flatArgs
  | map _ k v => !k.isContainer && !v.isContainer && k.flatArgs && v.flatArgs
  | iface _ _ => true
  | user _ => true
  | const t => t.flatArgs
  | ref t => t.flatArgs

/-- A scalar spelling the table maps to an integral, `bool` or `string` proto
type, under `const ` and `&`. -/
def isKeyScalar : CppType → Bool
  | scalar s => decide (cppScalarToProtoType s ∈ protoKeyScalars)
  | const t => t.isKeyScalar
  | ref t => t.isKeyScalar
  | _ => false

/-- Every map key of the type is a key scalar. -/
def keyScalars : CppType → Bool
  | scalar _ => true
  | pointer t => t.keyScalars
  | vector t => t.keyScalars
  | array t _ => t.keyScalars
  | map _ k v => k.isKeyScalar && k.keyScalars && v.keyScalars
  | iface _ _ => true
  | user _ => true
  | const t => t.keyScalars
  | ref t => t.keyScalars

/-- No user type name in the type is qualified with `::`. -/
def unqualified : CppType → Bool
  | scalar _ => true
  | pointer t => t.unqualified
  | vector t => t.unqualified
  | array t _ => t.unqualified
  | map _ k v => k.unqualified && v.unqualified
  | iface _ _ => true
  | user n => !decide (':' ∈ n)
  | const t => t.unqualified
  | ref t => t.unqualified

/-- A byte spelling: the element types of the vectors that are `bytes`. -/
def isByteSpelling : CppType → Bool
  | scalar s => decide (s ∈ ["uint8_t", "unsigned char", "char", "signed char"].map String.toList)
  | _ => false

/-- The parameter-kind projection, composed over the grammar as the spec
states it. -/
def project : CppType → List Char
  | scalar s => cppScalarToProtoType s
  | pointer _ => "uint64".toList
  | vector t => if t.isByteSpelling then "bytes".toList else "repeated ".toList ++ t.project
  | array t _ => "repeated ".toList ++ t.project
  | map _ k v => "map<".toList ++ k.project ++ ", ".toList ++ v.project ++ ['>']
  | iface _ _ => "rpc.interface_descriptor".toList
  | user n => n
  | const t => t.project
  | ref t => t.project

/-- The type under its outermost `const ` and `&`. -/
def core : CppType → CppType
  | const t => t.core
  | ref t => t.core
  | t => t

end CppType

/-- The proto3 scalar value types. -/
def protoScalars : List (List Char) :=
  ["double", "float", "int32", "int64", "uint32", "uint64", "sint32", "sint64", "fixed32",
   "fixed64", "sfixed32", "sfixed64", "bool", "string", "bytes"].map String.toList

/-- A single proto3 type: a scalar, or the name of a message or an enum, dotted
when it is qualified. -/
def IsSingleType (s : List Char) : Prop :=
  s ∈ protoScalars ∨ (s ≠ [] ∧ ∀ c ∈ s, c.isAlphanum = true ∨ c = '_' ∨ c = '.')

instance (s : List Char) : Decidable (IsSingleType s) :=
  inferInstanceAs (Decidable (_ ∨ _))

/-- A proto3 field type: a single type, a `repeated` single type, or a map with
an integral, `bool` or `string` key and a single value. -/
def IsFieldType (s : List Char) : Prop :=
  IsSingleType s ∨ (∃ t, s = "repeated ".toList ++ t ∧ IsSingleType t) ∨
    ∃ k v, s = "map<".toList ++ k ++ ", ".toList ++ v ++ ['>'] ∧ k ∈ protoKeyScalars ∧
      IsSingleType v

/-! ### Rendered text -/

/-- The characters of a name, a scalar spelling or an array size: none of them
is a bracket, a comma, a space, an `&` or a `*` of a modifier. -/
def IsNameChar (c : Char) : Prop := c ∉ ['<', '>', ',', ' ', '&', '*']

theorem isNameChar_of_ident {c : Char} (h : c.isAlphanum = true ∨ c = '_' ∨ c = ':') :
    IsNameChar c := by
  rintro hc
  simp only [List.mem_cons, List.mem_singleton, List.not_mem_nil, or_false] at hc
  rcases hc with rfl | rfl | rfl | rfl | rfl | rfl <;> revert h <;> decide

theorem IsNameChar.ne {c : Char} (h : IsNameChar c) :
    c ≠ '<' ∧ c ≠ '>' ∧ c ≠ ',' ∧ c ≠ ' ' ∧ c ≠ '&' ∧ c ≠ '*' := by
  simpa [IsNameChar] using h

theorem isNameChar_of_size {c : Char} (h : c.isAlphanum = true ∨ c = '_') : IsNameChar c :=
  isNameChar_of_ident (h.elim Or.inl (Or.inr ∘ Or.inl))

theorem isNameChar_of_typeName {n : List Char} (h : isTypeName n = true) :
    ∀ c ∈ n, IsNameChar c := by
  simp only [isTypeName, Bool.and_eq_true, List.all_eq_true, Bool.or_eq_true,
    beq_iff_eq] at h
  exact fun c hc => isNameChar_of_ident (by rcases h.2 c hc with (h | h) | h <;> simp_all)

/-- No spelling of the scalar table starts or ends with a space, or holds a
bracket, a comma or an `&`. -/
theorem scalarSpellings_plain : ∀ s ∈ scalarSpellings, s ≠ [] ∧ s.head? ≠ some ' ' ∧
    s.getLast? ≠ some ' ' ∧ ∀ c ∈ s, c ≠ '<' ∧ c ≠ '>' ∧ c ≠ ',' ∧ c ≠ '&' := by
  decide

namespace CppType

/-- A rendered type is balanced, and each of its commas is inside brackets. -/
theorem render_nested : ∀ {τ : CppType}, τ.inGrammar = true → Balanced τ.render ∧ CommasNested τ.render
  | scalar s, h => nested_of_plain fun c hc =>
      have := (scalarSpellings_plain s (by simpa [inGrammar] using h)).2.2.2 c hc
      ⟨this.1, this.2.1, this.2.2.1⟩
  | pointer t, h => nested_append (render_nested (τ := t) h) (nested_of_plain (by decide))
  | vector t, h => nested_template (by decide) (render_nested (τ := t) h).1
  | array t n, h => by
      simp only [inGrammar, Bool.and_eq_true, Bool.not_eq_true', List.isEmpty_eq_false,
        List.all_eq_true, Bool.or_eq_true, beq_iff_eq] at h
      have hn : ∀ c ∈ n, c ≠ '<' ∧ c ≠ '>' ∧ c ≠ ',' := fun c hc =>
        have := (isNameChar_of_size (h.2 c hc)).ne
        ⟨this.1, this.2.1, this.2.2.1⟩
      exact nested_template (by decide) (((render_nested h.1.1).1.append
        (balanced_of_plain (w := ", ".toList) (by decide))).append (nested_of_plain hn).1)
  | map m k v, h => by
      simp only [inGrammar, Bool.and_eq_true] at h
      exact nested_template (by cases m <;> decide) (((render_nested h.1).1.append
        (balanced_of_plain (w := ", ".toList) (by decide))).append (render_nested h.2).1)
  | iface p n, h => nested_template (by cases p <;> decide) (nested_of_plain fun c hc =>
      have := (isNameChar_of_typeName h c hc).ne
      ⟨this.1, this.2.1, this.2.2.1⟩).1
  | user n, h => by
      simp only [inGrammar, Bool.and_eq_true] at h
      exact nested_of_plain fun c hc =>
        have := (isNameChar_of_typeName h.1 c hc).ne
        ⟨this.1, this.2.1, this.2.2.1⟩
  | const t, h => by
      simp only [inGrammar, Bool.and_eq_true] at h
      exact nested_append (nested_of_plain (by decide)) (render_nested h.1)
  | ref t, h => by
      simp only [inGrammar, Bool.and_eq_true] at h
      exact nested_append (render_nested h.1) (nested_of_plain (by decide))

theorem closeAfter_render {τ : CppType} (h : τ.inGrammar = true) (d : Nat) (rest : List Char) :
    closeAfter (τ.render ++ rest) (d + 1) = (closeAfter rest (d + 1)).map (· + τ.render.length) :=
  closeAfter_balanced (render_nested h).1 d rest

theorem splitAtTopComma_render {τ : CppType} (h : τ.inGrammar = true) (d : Int) (hd : 0 ≤ d)
    (rest : List Char) :
    splitAtTopComma d (τ.render ++ rest) = (splitAtTopComma d rest).map (prependFirst τ.render) :=
  splitAtTopComma_balanced (render_nested h).1 (render_nested h).2 hd rest

theorem render_ends : ∀ {τ : CppType}, τ.inGrammar = true →
    τ.render ≠ [] ∧ τ.render.head? ≠ some ' ' ∧ τ.render.getLast? ≠ some ' '
  | scalar s, h => (scalarSpellings_plain s (by simpa [inGrammar] using h)).imp_right
      fun h => ⟨h.1, h.2.1⟩
  | pointer t, h => by
      obtain ⟨h₁, h₂, -⟩ := render_ends (τ := t) h
      simp [render, List.head?_append_of_ne_nil _ h₁, h₂]
  | vector t, _ => by simp [render, List.getLast?_cons]
  | array t n, _ => by simp [render, List.getLast?_cons]
  | map m k v, _ => by cases m <;> simp [render, MapKind.name, List.getLast?_cons]
  | iface p n, _ => by cases p <;> simp [render, PtrKind.name, List.getLast?_cons]
  | user n, h => by
      simp only [inGrammar, Bool.and_eq_true] at h
      have hn := isNameChar_of_typeName h.1
      refine ⟨fun h' => by simp only [render] at h'; simp [isTypeName, h'] at h,
        fun h' => ?_, fun h' => ?_⟩
      · exact (hn ' ' (List.mem_of_mem_head? h')).ne.2.2.2.1 rfl
      · exact (hn ' ' (List.mem_of_mem_getLast? h')).ne.2.2.2.1 rfl
  | const t, h => by
      simp only [inGrammar, Bool.and_eq_true] at h
      obtain ⟨h₁, -, h₃⟩ := render_ends h.1
      refine ⟨by simp [render], by simp [render], ?_⟩
      rwa [render, List.getLast?_append_of_ne_nil _ h₁]
  | ref t, h => by
      simp only [inGrammar, Bool.and_eq_true] at h
      obtain ⟨h₁, h₂, -⟩ := render_ends h.1
      simp [render, List.head?_append_of_ne_nil _ h₁, h₂]

theorem amp_not_mem_render : ∀ {τ : CppType}, τ.inGrammar = true → τ.refFree = true →
    '&' ∉ τ.render
  | scalar s, h, _ => fun hc =>
      ((scalarSpellings_plain s (by simpa [inGrammar] using h)).2.2.2 '&' hc).2.2.2 rfl
  | pointer t, h, hr => by simpa [render] using amp_not_mem_render (τ := t) h hr
  | vector t, h, hr => by simpa [render] using amp_not_mem_render (τ := t) h hr
  | array t n, h, hr => by
      simp only [inGrammar, Bool.and_eq_true, Bool.not_eq_true', List.isEmpty_eq_false,
        List.all_eq_true, Bool.or_eq_true, beq_iff_eq] at h
      have hn : '&' ∉ n := fun hc =>
        (isNameChar_of_size (h.2 '&' hc)).ne.2.2.2.2.1 rfl
      simpa [render, hn] using amp_not_mem_render (τ := t) h.1.1 hr
  | map m k v, h, hr => by
      simp only [inGrammar, refFree, Bool.and_eq_true] at h hr
      cases m <;> simp [render, MapKind.name, amp_not_mem_render h.1 hr.1,
        amp_not_mem_render h.2 hr.2]
  | iface p n, h, _ => by
      have hn : '&' ∉ n := fun hc => (isNameChar_of_typeName h '&' hc).ne.2.2.2.2.1 rfl
      cases p <;> simp [render, PtrKind.name, hn]
  | user n, h, _ => fun hc => by
      simp only [inGrammar, Bool.and_eq_true] at h
      exact (isNameChar_of_typeName h.1 '&' hc).ne.2.2.2.2.1 rfl
  | const t, h, hr => by
      simp only [inGrammar, Bool.and_eq_true] at h
      simpa [render] using amp_not_mem_render h.1 hr
  | ref t, _, hr => by simp [refFree] at hr

theorem star_mem_render : ∀ {τ : CppType}, τ.inGrammar = true →
    ('*' ∈ τ.render ↔ τ.mentionsPointer = true)
  | scalar s, _ => by simp [render, mentionsPointer]
  | pointer t, _ => by simp [render, mentionsPointer]
  | vector t, h => by simpa [render, mentionsPointer] using star_mem_render (τ := t) h
  | array t n, h => by
      simp only [inGrammar, Bool.and_eq_true, Bool.not_eq_true', List.isEmpty_eq_false,
        List.all_eq_true, Bool.or_eq_true, beq_iff_eq] at h
      have hn : '*' ∉ n := fun hc =>
        (isNameChar_of_size (h.2 '*' hc)).ne.2.2.2.2.2 rfl
      simpa [render, mentionsPointer, hn] using star_mem_render (τ := t) h.1.1
  | map m k v, h => by
      simp only [inGrammar, Bool.and_eq_true] at h
      cases m <;> simp [render, MapKind.name, mentionsPointer, star_mem_render h.1,
        star_mem_render h.2]
  | iface p n, h => by
      have hn : '*' ∉ n := fun hc => (isNameChar_of_typeName h '*' hc).ne.2.2.2.2.2 rfl
      cases p <;> simp [render, PtrKind.name, mentionsPointer, hn]
  | user n, h => by
      simp only [inGrammar, Bool.and_eq_true] at h
      simpa [render, mentionsPointer] using fun hc =>
        (isNameChar_of_typeName h.1 '*' hc).ne.2.2.2.2.2 rfl
  | const t, h => by
      simp only [inGrammar, Bool.and_eq_true] at h
      simpa [render, mentionsPointer] using star_mem_render h.1
  | ref t, h => by
      simp only [inGrammar, Bool.and_eq_true] at h
      simpa [render, mentionsPointer] using star_mem_render h.1

theorem outerRef_of_refFree : ∀ {τ : CppType}, τ.refFree = true → τ.outerRef = true
  | const t, h => outerRef_of_refFree (τ := t) h
  | ref _, h => by simp [refFree] at h
  | scalar _, h | pointer _, h | vector _, h | array _ _, h | map _ _ _, h | iface _ _, h
  | user _, h => h

/-- No pointer-free scalar spelling starts with `const `. -/
theorem scalarSpellings_not_const : ∀ s ∈ scalarSpellings, '*' ∉ s → ¬ "const ".toList <+: s := by
  decide

theorem stripModifiers_render_self {τ : CppType} (h : τ.inGrammar = true)
    (hp : τ.mentionsPointer = false) (hr : τ.refFree = true) (hc : ¬ "const ".toList <+: τ.render) :
    stripModifiers τ.render = (false, τ.render) :=
  have hends := render_ends h
  stripModifiers_of_plain hc (fun h' => by simp [(star_mem_render h).1 h'] at hp)
    (amp_not_mem_render h hr) hends.2.1 hends.2.2

theorem stripModifiers_render : ∀ {τ : CppType}, τ.inGrammar = true →
    τ.mentionsPointer = false → τ.outerRef = true → stripModifiers τ.render = (false, τ.core.render)
  | const t, h, hp, hr => by
      simp only [inGrammar, Bool.and_eq_true, Bool.not_eq_true', ← Bool.not_eq_true,
        List.isPrefixOf_iff_prefix] at h
      rw [render, stripModifiers_const h.2]
      exact stripModifiers_render h.1 hp hr
  | ref t, h, hp, hr => by
      simp only [inGrammar, Bool.and_eq_true] at h
      rw [render, stripModifiers_amp (amp_not_mem_render h.1 hr)]
      exact stripModifiers_render h.1 hp (outerRef_of_refFree hr)
  | pointer t, _, hp, _ => by simp [mentionsPointer] at hp
  | scalar s, h, hp, hr => stripModifiers_render_self h hp hr
      (scalarSpellings_not_const s (by simpa [inGrammar] using h) (by simpa [mentionsPointer] using hp))
  | user n, h, hp, hr => stripModifiers_render_self h hp hr fun hc => by
      simp only [inGrammar, Bool.and_eq_true] at h
      exact (isNameChar_of_typeName h.1 ' ' (hc.subset (by decide))).ne.2.2.2.1 rfl
  | vector _, h, hp, hr | array _ _, h, hp, hr =>
      stripModifiers_render_self h hp hr (by simp [render])
  | map m _ _, h, hp, hr => stripModifiers_render_self h hp hr (by cases m <;> simp [render, MapKind.name])
  | iface p _, h, hp, hr => stripModifiers_render_self h hp hr (by cases p <;> simp [render, PtrKind.name])

end CppType

end Protobuf
end Canopy
