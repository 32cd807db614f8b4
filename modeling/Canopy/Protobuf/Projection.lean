/-
# What `cpp_type_to_proto_type` computes on the type grammar

One lemma per branch of `protoOfStripped` on a rendered type (a name with no
bracket, an interface pointer, a vector, an array, a map), from the bracket
scans of `Canopy.Protobuf.Grammar`; then the fuel induction that composes them
(`cppTypeToProtoTypeAux_project`), the pointer short cut
(`cppTypeToProtoType_pointer`), and what the projection is worth as a proto3
field type (`project_isFieldType`).
-/

import Canopy.Protobuf.Grammar

namespace Canopy
namespace Protobuf

open CppType

/-! ### Texts with no `<` -/

section Unbracketed

variable {type : List Char} (h : '<' ∉ type)
include h

theorem isPrefixOf_eq_false_of_bracket {p : List Char} (hp : '<' ∈ p) :
    p.isPrefixOf type = false := by
  rw [← Bool.not_eq_true, List.isPrefixOf_iff_prefix]
  exact fun hpre => h (hpre.subset hp)

theorem find?_prefix_eq_none {ps : List (List Char)} (hps : ∀ p ∈ ps, '<' ∈ p) :
    ps.find? (·.isPrefixOf type) = none :=
  List.find?_eq_none.2 fun p hp => by simp [isPrefixOf_eq_false_of_bracket h (hps p hp)]

/-- A text with no `<` is neither a byte vector, a container nor an interface
pointer: it is looked up in the scalar table and is its own name otherwise. -/
theorem protoOfStripped_plain (rec : List Char → List Char) :
    protoOfStripped rec type =
      if cppScalarToProtoType type ≠ [] then cppScalarToProtoType type else type := by
  have hb : byteVectorSpellings.any (·.toList == type) = false := by
    simp only [byteVectorSpellings, List.any_eq_false, beq_iff_eq]
    rintro s hs rfl
    simp at hs
    rcases hs with rfl | rfl | rfl | rfl <;> simp at h
  have hm : isMapType type = none := find?_prefix_eq_none h (by decide)
  have hs : isSequenceType type = none := find?_prefix_eq_none h (by decide)
  have h₁ := isPrefixOf_eq_false_of_bracket h (p := "rpc::shared_ptr<".toList) (by decide)
  have h₂ := isPrefixOf_eq_false_of_bracket h (p := "rpc::optimistic_ptr<".toList) (by decide)
  simp only [protoOfStripped, protoOfNamed, hb, hm, hs, h₁, h₂, Option.isSome_none,
    Bool.or_false, Bool.false_eq_true, ite_false, h, false_and]

end Unbracketed

theorem cppScalarToProtoType_mem_protoScalars :
    ∀ s ∈ scalarSpellings, cppScalarToProtoType s ∈ protoScalars := by
  decide

theorem cppScalarToProtoType_ne_nil : ∀ s ∈ scalarSpellings, cppScalarToProtoType s ≠ [] := fun s hs h =>
  absurd (h ▸ cppScalarToProtoType_mem_protoScalars s hs) (by decide)

/-- Only the spellings of the table have a proto scalar. -/
theorem cppScalarToProtoType_eq_nil {s : List Char} (hs : s ∉ scalarSpellings) :
    cppScalarToProtoType s = [] := by
  unfold cppScalarToProtoType firstRow
  cases hr : scalarRows.find? (fun r => r.1.any (·.toList == s)) with
  | none => rfl
  | some r =>
    refine absurd ?_ hs
    have hany := List.find?_some hr
    simp only [List.any_eq_true, beq_iff_eq] at hany
    obtain ⟨w, hw, rfl⟩ := hany
    exact List.mem_flatMap.2 ⟨r, List.mem_of_find?_eq_some hr, List.mem_map_of_mem _ hw⟩

/-! ### Bracketed texts -/

/-- The scan of `extract_template_content` reads a balanced text through to
the `>` that closes it. -/
def ClosesAfter (body : List Char) : Prop :=
  ∀ rest, closeAfter (body ++ rest) 1 = (closeAfter rest 1).map (· + body.length)

theorem closesAfter_render {τ : CppType} (h : τ.inGrammar = true) : ClosesAfter τ.render :=
  closeAfter_render h 0

theorem closesAfter_plain {w : List Char} (hw : ∀ c ∈ w, c ≠ '<' ∧ c ≠ '>') : ClosesAfter w :=
  closeAfter_balanced (balanced_of_plain hw) 0

theorem ClosesAfter.append {a b : List Char} (ha : ClosesAfter a) (hb : ClosesAfter b) :
    ClosesAfter (a ++ b) := fun rest => by
  rw [List.append_assoc, ha, hb, Option.map_map, List.length_append]
  congr 1; funext k; simp; omega

theorem extractTemplateContent_closes {p body : List Char} (hp : '<' ∉ p) (hb : ClosesAfter body) :
    extractTemplateContent (p ++ '<' :: (body ++ ['>'])) ((p ++ '<' :: (body ++ ['>'])).indexOf '<') =
      some (p.length + 1 + (1 + body.length), body) := by
  rw [extractTemplateContent_first hp, hb]
  simp

/-- `split_template_args` cuts a rendered type off at the comma after it. -/
theorem splitTemplateArgs_render {τ : CppType} (h : τ.inGrammar = true) (rest : List Char) :
    splitTemplateArgs (τ.render ++ ',' :: ' ' :: rest) = some (τ.render, trimWhitespace rest) := by
  obtain ⟨-, h₁, h₂⟩ := render_ends h
  rw [splitTemplateArgs, splitAtTopComma_render h 0 (Int.le_refl 0)]
  simp [prependFirst, trimWhitespace_eq_self h₁ h₂]

theorem byteSpellings_scalar :
    ∀ b ∈ ["uint8_t", "unsigned char", "char", "signed char"].map String.toList,
      b ∈ scalarSpellings := by
  decide

theorem byteVectorSpellings_toList : byteVectorSpellings.map String.toList =
    (["uint8_t", "unsigned char", "char", "signed char"].map String.toList).map fun b =>
      "std::vector".toList ++ '<' :: (b ++ ['>']) := by
  decide

/-- A template's text has a `<`, which no byte spelling has. -/
theorem not_mem_byteSpellings_of_open {r : List Char} (h : '<' ∈ r) :
    r ∉ ["uint8_t", "unsigned char", "char", "signed char"].map String.toList := fun hr =>
  (by decide : ∀ r ∈ ["uint8_t", "unsigned char", "char", "signed char"].map String.toList, '<' ∉ r) r hr h

/-- The element types whose vector is `bytes`. -/
theorem render_mem_byteSpellings : ∀ {τ : CppType}, τ.inGrammar = true →
    (τ.render ∈ ["uint8_t", "unsigned char", "char", "signed char"].map String.toList ↔
      τ.isByteSpelling = true)
  | scalar s, _ => by simp [render, isByteSpelling]
  | user n, h => by
      simp only [inGrammar, Bool.and_eq_true, Bool.not_eq_true', decide_eq_false_iff_not] at h
      simp only [render, isByteSpelling, Bool.false_eq_true, iff_false]
      exact fun hn => h.2 (byteSpellings_scalar _ hn)
  | pointer t, _ | ref t, _ => by
      simp only [render, isByteSpelling, Bool.false_eq_true, iff_false, List.map_cons,
        List.map_nil, List.mem_cons, List.mem_singleton, List.not_mem_nil, or_false]
      rintro (h | h | h | h) <;> simpa using congrArg List.getLast? h
  | const _, _ => by simp [render, isByteSpelling]
  | vector _, _ | array _ _, _ | map _ _ _, _ | iface _ _, _ =>
      iff_of_false (not_mem_byteSpellings_of_open (List.mem_append_right _ (List.mem_cons_self _ _)))
        Bool.false_ne_true

section Branches

variable (rec : List Char → List Char)

/-- An interface pointer starts with `r`: no byte vector, map or sequence
does, so it meets the interface-pointer test. -/
theorem protoOfStripped_iface (p : PtrKind) (n : List Char) :
    protoOfStripped rec (iface p n).render = "rpc.interface_descriptor".toList := by
  obtain ⟨t, ht⟩ : ∃ t, (iface p n).render = 'r' :: t := by cases p <;> exact ⟨_, rfl⟩
  have hb : byteVectorSpellings.any (·.toList == (iface p n).render) = false := by rw [ht]; rfl
  have hm : isMapType (iface p n).render = none := by rw [ht]; rfl
  have hs : isSequenceType (iface p n).render = none := by rw [ht]; rfl
  rw [protoOfStripped, hb, hm, hs]
  cases p <;> simp [protoOfNamed, render, PtrKind.name]

theorem protoOfStripped_vector {t : CppType} (h : t.inGrammar = true) :
    protoOfStripped rec (vector t).render =
      if t.isByteSpelling then "bytes".toList else "repeated ".toList ++ rec t.render := by
  have hb : byteVectorSpellings.any (·.toList == (vector t).render) = t.isByteSpelling := by
    have e : byteVectorSpellings.any (·.toList == (vector t).render) =
        (byteVectorSpellings.map String.toList).any (· == (vector t).render) := rfl
    rw [Bool.eq_iff_iff, ← render_mem_byteSpellings h, e, byteVectorSpellings_toList]
    simp only [List.any_map, List.any_eq_true, Function.comp_apply, beq_iff_eq, render,
      List.append_cancel_left_eq, List.cons.injEq, List.append_cancel_right_eq, true_and,
      exists_eq_right]
  rw [protoOfStripped, hb]
  split
  · rfl
  · simp only [render] at *
    rw [extractTemplateContent_closes (by decide) (closesAfter_render h)]
    simp [isMapType, isSequenceType]

theorem protoOfStripped_array {t : CppType} {n : List Char} (h : (array t n).inGrammar = true) :
    protoOfStripped rec (array t n).render = "repeated ".toList ++ rec t.render := by
  simp only [inGrammar, Bool.and_eq_true, Bool.not_eq_true', List.isEmpty_eq_false,
    List.all_eq_true, Bool.or_eq_true, beq_iff_eq] at h
  have hn : ∀ c ∈ n, IsNameChar c := fun c hc => isNameChar_of_size (h.2 c hc)
  have hclose := ((closesAfter_render h.1.1).append (closesAfter_plain (w := ", ".toList) (by decide))).append
    (closesAfter_plain fun c hc => ⟨(hn c hc).ne.1, (hn c hc).ne.2.1⟩)
  have hends : trimWhitespace n = n := trimWhitespace_eq_self
    (fun h' => (hn ' ' (List.mem_of_mem_head? h')).ne.2.2.2.1 rfl)
    (fun h' => (hn ' ' (List.mem_of_mem_getLast? h')).ne.2.2.2.1 rfl)
  simp only [render, protoOfStripped]
  rw [extractTemplateContent_closes (by decide) hclose]
  simp [isMapType, isSequenceType, byteVectorSpellings, splitTemplateArgs_render h.1.1]

theorem protoOfStripped_map (m : MapKind) {k v : CppType} (hk : k.inGrammar = true)
    (hv : v.inGrammar = true) :
    protoOfStripped rec (map m k v).render =
      "map<".toList ++ rec k.render ++ ", ".toList ++ rec v.render ++ ">".toList := by
  obtain ⟨-, h₁, h₂⟩ := render_ends hv
  have hclose := ((closesAfter_render hk).append (closesAfter_plain (w := ", ".toList) (by decide))).append
    (closesAfter_render hv)
  have hb : byteVectorSpellings.any (·.toList == (map m k v).render) = false := by cases m <;> rfl
  have hm : (isMapType (map m k v).render).isSome = true := by
    cases m <;> simp [isMapType, render, MapKind.name]
  have hsplit : splitTemplateArgs (k.render ++ ", ".toList ++ v.render) = some (k.render, v.render) := by
    rw [List.append_assoc]
    show splitTemplateArgs (k.render ++ ',' :: ' ' :: v.render) = _
    rw [splitTemplateArgs_render hk, trimWhitespace_eq_self h₁ h₂]
  rw [protoOfStripped, hb, if_neg Bool.false_ne_true, if_pos hm, render,
    extractTemplateContent_closes (by cases m <;> decide) hclose]
  simp only [hsplit]

end Branches

/-! ### The whole recursion -/

theorem cppTypeToProtoTypeAux_congr {n : Nat} {s s' : List Char}
    (h : stripModifiers s = stripModifiers s') :
    cppTypeToProtoTypeAux (n + 1) s = cppTypeToProtoTypeAux (n + 1) s' := by
  simp only [cppTypeToProtoTypeAux_succ, h]

theorem cppTypeToProtoTypeAux_core {τ : CppType} (h : τ.inGrammar = true)
    (hp : τ.mentionsPointer = false) (hr : τ.outerRef = true) (n : Nat) :
    cppTypeToProtoTypeAux (n + 1) τ.render = protoOfStripped (cppTypeToProtoTypeAux n) τ.core.render := by
  rw [cppTypeToProtoTypeAux_succ, stripModifiers_render h hp hr]
  rfl

/-- **The projection.**  On a rendered type with no pointer in it and no `&`
but an outermost one, `cpp_type_to_proto_type` with fuel beyond the length of
the text is the parameter-kind projection. -/
theorem cppTypeToProtoTypeAux_project : ∀ {τ : CppType}, τ.inGrammar = true →
    τ.mentionsPointer = false → τ.outerRef = true →
    ∀ n, τ.render.length < n → cppTypeToProtoTypeAux n τ.render = τ.project
  | _, _, _, _, 0, hn => absurd hn (Nat.not_lt_zero _)
  | const t, h, hp, hr, n + 1, hn => by
      simp only [inGrammar, Bool.and_eq_true, Bool.not_eq_true', ← Bool.not_eq_true,
        List.isPrefixOf_iff_prefix] at h
      rw [render, cppTypeToProtoTypeAux_congr (stripModifiers_const h.2)]
      exact cppTypeToProtoTypeAux_project h.1 hp hr _ (by simp [render] at hn; omega)
  | ref t, h, hp, hr, n + 1, hn => by
      simp only [inGrammar, Bool.and_eq_true] at h
      rw [render, cppTypeToProtoTypeAux_congr (stripModifiers_amp (amp_not_mem_render h.1 hr))]
      exact cppTypeToProtoTypeAux_project h.1 hp (outerRef_of_refFree hr) _
        (by simp [render] at hn; omega)
  | pointer _, _, hp, _, _ + 1, _ => by simp [mentionsPointer] at hp
  | scalar s, h, hp, hr, n + 1, _ => by
      have hs : s ∈ scalarSpellings := by simpa [inGrammar] using h
      rw [cppTypeToProtoTypeAux_core h hp hr]
      dsimp only [core, render]
      rw [protoOfStripped_plain fun hc => ((scalarSpellings_plain s hs).2.2.2 '<' hc).1 rfl,
        if_pos (cppScalarToProtoType_ne_nil s hs), project]
  | user u, h, hp, hr, n + 1, _ => by
      simp only [inGrammar, Bool.and_eq_true, Bool.not_eq_true', decide_eq_false_iff_not] at h
      rw [cppTypeToProtoTypeAux_core (τ := user u) (by simpa [inGrammar] using h) hp hr]
      dsimp only [core, render]
      rw [protoOfStripped_plain fun hc => (isNameChar_of_typeName h.1 '<' hc).ne.1 rfl,
        cppScalarToProtoType_eq_nil h.2]
      rfl
  | iface p u, h, hp, hr, n + 1, _ => by
      rw [cppTypeToProtoTypeAux_core h hp hr]
      exact protoOfStripped_iface _ p u
  | vector t, h, hp, hr, n + 1, hn => by
      rw [cppTypeToProtoTypeAux_core h hp hr]
      dsimp only [core]
      rw [protoOfStripped_vector (t := t) _ h, project,
        cppTypeToProtoTypeAux_project (τ := t) h hp (outerRef_of_refFree hr) _
          (by simp [render] at hn; omega)]
  | array t m, h, hp, hr, n + 1, hn => by
      have ht : t.inGrammar = true := by simp_all [inGrammar]
      rw [cppTypeToProtoTypeAux_core h hp hr]
      dsimp only [core]
      rw [protoOfStripped_array _ h, project,
        cppTypeToProtoTypeAux_project ht hp (outerRef_of_refFree hr) _
          (by simp [render] at hn; omega)]
  | map m k v, h, hp, hr, n + 1, hn => by
      simp only [inGrammar, mentionsPointer, outerRef, refFree, Bool.and_eq_true,
        Bool.or_eq_false_iff] at h hp hr
      rw [cppTypeToProtoTypeAux_core (τ := map m k v) (by simp [inGrammar, h])
          (by simp [mentionsPointer, hp]) (by simp [outerRef, refFree, hr])]
      dsimp only [core]
      rw [protoOfStripped_map _ m h.1 h.2, project,
        cppTypeToProtoTypeAux_project h.1 hp.1 (outerRef_of_refFree hr.1) _
          (by simp [render] at hn; omega),
        cppTypeToProtoTypeAux_project h.2 hp.2 (outerRef_of_refFree hr.2) _
          (by simp [render] at hn; omega)]
      simp

/-- A type that mentions a pointer anywhere is one `uint64` address. -/
theorem cppTypeToProtoType_pointer {τ : CppType} (h : τ.inGrammar = true)
    (hp : τ.mentionsPointer = true) : cppTypeToProtoType τ.render = "uint64".toList := by
  rw [cppTypeToProtoType, cppTypeToProtoTypeAux_succ, stripModifiers_fst,
    decide_eq_true ((star_mem_render h).2 hp), if_pos rfl]

theorem cppTypeToProtoType_project {τ : CppType} (h : τ.inGrammar = true)
    (hp : τ.mentionsPointer = false) (hr : τ.outerRef = true) :
    cppTypeToProtoType τ.render = τ.project :=
  cppTypeToProtoTypeAux_project h hp hr _ (Nat.lt_succ_self _)


/-! ### What the projection is worth in proto3 -/

/-- The projection of a type that is not a container is a single proto3 type. -/
theorem project_isSingleType : ∀ {τ : CppType}, τ.inGrammar = true → τ.isContainer = false →
    τ.unqualified = true → IsSingleType τ.project
  | scalar s, h, _, _ => .inl (cppScalarToProtoType_mem_protoScalars s (by simpa [inGrammar] using h))
  | pointer _, _, _, _ => .inl (by simp only [project]; decide)
  | iface _ _, _, _, _ => by simp only [project]; decide
  | user n, h, _, hq => by
      simp only [inGrammar, unqualified, isTypeName, Bool.and_eq_true, Bool.not_eq_true',
        List.isEmpty_eq_false, List.all_eq_true, Bool.or_eq_true, beq_iff_eq,
        decide_eq_false_iff_not] at h hq
      refine .inr ⟨h.1.1, fun c hc => ?_⟩
      rcases h.1.2 c hc with (h' | h') | rfl
      · exact .inl h'
      · exact .inr (.inl h')
      · exact absurd hc hq
  | const t, h, hc, hq | ref t, h, hc, hq => by
      simp only [inGrammar, Bool.and_eq_true] at h
      exact project_isSingleType (τ := t) h.1 hc hq
  | vector _, _, hc, _ | array _ _, _, hc, _ | map _ _ _, _, hc, _ => by simp [isContainer] at hc

theorem project_mem_protoKeyScalars : ∀ {τ : CppType}, τ.isKeyScalar = true →
    τ.project ∈ protoKeyScalars
  | scalar s, h => by simpa [isKeyScalar] using h
  | const t, h | ref t, h => project_mem_protoKeyScalars (τ := t) h
  | pointer _, h | vector _, h | array _ _, h | map _ _ _, h | iface _ _, h | user _, h => by
      simp [isKeyScalar] at h

/-- **Field types.**  When no container holds a container, every map key is
an integral, `bool` or `string` scalar and no user name is qualified, the
projection is a proto3 field type. -/
theorem project_isFieldType : ∀ {τ : CppType}, τ.inGrammar = true → τ.flatArgs = true →
    τ.keyScalars = true → τ.unqualified = true → IsFieldType τ.project
  | vector t, h, hf, _, hq => by
      simp only [flatArgs, Bool.and_eq_true, Bool.not_eq_true'] at hf
      by_cases hb : t.isByteSpelling
      · exact .inl (.inl (by simp only [project, hb, ite_true]; decide))
      · exact .inr (.inl ⟨t.project, by simp [project, hb], project_isSingleType h hf.1 hq⟩)
  | array t _, h, hf, _, hq => by
      simp only [inGrammar, flatArgs, Bool.and_eq_true, Bool.not_eq_true'] at h hf
      exact .inr (.inl ⟨t.project, rfl, project_isSingleType h.1.1 hf.1 hq⟩)
  | map _ k v, h, hf, hk, hq => by
      simp only [inGrammar, flatArgs, keyScalars, unqualified, Bool.and_eq_true,
        Bool.not_eq_true'] at h hf hk hq
      exact .inr (.inr ⟨k.project, v.project, rfl, project_mem_protoKeyScalars hk.1.1,
        project_isSingleType h.2 hf.1.1.2 hq.2⟩)
  | const t, h, hf, hk, hq | ref t, h, hf, hk, hq => by
      simp only [inGrammar, Bool.and_eq_true] at h
      exact project_isFieldType (τ := t) h.1 hf hk hq
  | scalar _, h, _, _, hq | pointer _, h, _, _, hq | iface _ _, h, _, _, hq | user _, h, _, _, hq =>
      .inl (project_isSingleType h rfl hq)

/-- **What `cpp_type_to_proto_type` makes of the grammar.**  A type that
mentions a pointer anywhere is `uint64`; a type with no pointer and an `&` at
most outermost is the projection; and the result is a proto3 field type when
the `&` is outermost, no container argument is a container, every map key is an
integral, `bool` or `string` scalar and no user name is qualified. -/
theorem cppTypeToProtoType_amended {τ : CppType} (h : τ.inGrammar = true) :
    (τ.mentionsPointer = true → cppTypeToProtoType τ.render = "uint64".toList) ∧
    (τ.mentionsPointer = false → τ.outerRef = true → cppTypeToProtoType τ.render = τ.project) ∧
    (τ.outerRef = true → τ.flatArgs = true → τ.keyScalars = true → τ.unqualified = true →
      IsFieldType (cppTypeToProtoType τ.render)) := by
  refine ⟨cppTypeToProtoType_pointer h, cppTypeToProtoType_project h, fun hr hf hk hq => ?_⟩
  cases hp : τ.mentionsPointer
  · rw [cppTypeToProtoType_project h hp hr]
    exact project_isFieldType h hf hk hq
  · rw [cppTypeToProtoType_pointer h hp]
    exact .inl (.inl (by decide))

theorem cppTypeToProtoType_amended_map :
    (CppType.map .map (.const (.scalar "std::string".toList)) (.user "point".toList)).inGrammar = true ∧
    cppTypeToProtoType (CppType.map .map (.const (.scalar "std::string".toList))
      (.user "point".toList)).render = "map<string, point>".toList :=
  ⟨by decide, (cppTypeToProtoType_amended (by decide)).2.1 (by decide) (by decide)⟩

/-- **The compositional projection fails.**  `cpp_type_to_proto_type` makes
`std::vector<int*>`, which is in the grammar and has no container argument that
is a container, one `uint64` where the projection is `repeated uint64`;
`std::vector<std::vector<int>>` gives `repeated repeated int32`, which proto3
rejects; and the `&` of `std::vector<int&>` cuts the text before its `>`,
leaving the fallback `repeated string`. -/
theorem cppTypeToProtoType_counterexample :
    (CppType.vector (.pointer (.scalar "int".toList))).inGrammar = true ∧
    (CppType.vector (.pointer (.scalar "int".toList))).flatArgs = true ∧
    cppTypeToProtoType (CppType.vector (.pointer (.scalar "int".toList))).render =
      "uint64".toList ∧
    (CppType.vector (.pointer (.scalar "int".toList))).project = "repeated uint64".toList ∧
    (CppType.vector (.vector (.scalar "int".toList))).inGrammar = true ∧
    cppTypeToProtoType (CppType.vector (.vector (.scalar "int".toList))).render =
      "repeated repeated int32".toList ∧
    ¬ IsFieldType "repeated repeated int32".toList ∧
    cppTypeToProtoType (CppType.vector (.ref (.scalar "int".toList))).render =
      "repeated string".toList := by
  refine ⟨by decide, by decide, by decide, by decide, by decide, by decide, ?_, by decide⟩
  rintro (h | ⟨t, ht, h⟩ | ⟨k, v, h, -, -⟩)
  · exact absurd h (by decide)
  · rw [show "repeated repeated int32".toList = "repeated ".toList ++ "repeated int32".toList
      from rfl, List.append_cancel_left_eq] at ht
    exact absurd (ht ▸ h) (by decide)
  · exact absurd (congrArg List.head? h) (by simp)

end Protobuf
end Canopy
