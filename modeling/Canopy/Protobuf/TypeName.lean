/-
# From a C++ type to a proto3 field type

`generator/src/protobuf_generator.cpp`, lines 124-492: `trim_whitespace`,
`extract_template_content`, `split_template_args`, `is_map_type`,
`is_sequence_type`, `cpp_scalar_to_proto_type`, `cpp_type_to_proto_type`,
`sanitize_type_name` and `sanitize_field_name`.

A `std::string` is a `List Char` here.  `s.find(p) == 0` is `p.isPrefixOf s`,
`s.find(c) != npos` is `c ∈ s`, and cutting `s` at its first `c`
(`s.substr(0, s.find(c))`) is `s.takeWhile (· != c)`.  The two bracket loops
are recursions over the text after the opening `<`, carrying the loop's
`bracket_count`; `split_template_args` keeps it an `Int`, as a stray `>` makes
it negative.

`cpp_type_to_proto_type` recurses on the key and value of a map and on the
element of a sequence.  Its body is `protoOfStripped`, which takes the
recursive call as an argument, and `cppTypeToProtoTypeAux` ties the knot with
explicit fuel; every recursive call is on a strictly shorter text, so the
length of the type is fuel enough (`cppTypeToProtoType`).
-/

import Mathlib.Data.List.Basic

namespace Canopy
namespace Protobuf

/-- `trim_whitespace`: the text between the first and the last character that
is not a space, or nothing when every character is one. -/
def trimWhitespace (s : List Char) : List Char :=
  ((s.dropWhile (· == ' ')).reverse.dropWhile (· == ' ')).reverse

/-- The loop of `extract_template_content` after the opening `<`, with `depth`
brackets open: how many characters it reads up to and including the `>` that
brings the count to `0`, or `none` when the text ends first. -/
def closeAfter : List Char → Nat → Option Nat
  | [], _ => none
  | c :: cs, depth =>
    let depth := if c = '<' then depth + 1 else if c = '>' then depth - 1 else depth
    if depth = 0 then some 1 else (closeAfter cs depth).map (· + 1)

/-- `extract_template_content`: when `type[startPos]` is `<`, the position after
the `>` that matches it and the text between the two; `none` is `npos`. -/
def extractTemplateContent (type : List Char) (startPos : Nat) : Option (Nat × List Char) :=
  match type.drop startPos with
  | '<' :: rest => (closeAfter rest 1).map fun k => (startPos + 1 + k, rest.take (k - 1))
  | _ => none

/-- Put `w` in front of the first side of a split. -/
def prependFirst (w : List Char) (p : List Char × List Char) : List Char × List Char :=
  (w ++ p.1, p.2)

/-- The loop of `split_template_args` from bracket count `depth`: the text before
the first comma met at count `0`, and the text after it. -/
def splitAtTopComma : Int → List Char → Option (List Char × List Char)
  | _, [] => none
  | depth, c :: cs =>
    if c = '<' then (splitAtTopComma (depth + 1) cs).map (prependFirst [c])
    else if c = '>' then (splitAtTopComma (depth - 1) cs).map (prependFirst [c])
    else if c = ',' ∧ depth = 0 then some ([], cs)
    else (splitAtTopComma depth cs).map (prependFirst [c])

/-- `split_template_args`: the two sides of the first top-level comma, trimmed. -/
def splitTemplateArgs (args : List Char) : Option (List Char × List Char) :=
  (splitAtTopComma 0 args).map fun p => (trimWhitespace p.1, trimWhitespace p.2)

/-- `is_map_type`: the prefix of the map template the type starts with. -/
def isMapType (type : List Char) : Option (List Char) :=
  (["std::map<", "std::unordered_map<", "std::flat_map<"].map String.toList).find?
    (·.isPrefixOf type)

/-- `is_sequence_type`: the prefix of the sequence template the type starts with. -/
def isSequenceType (type : List Char) : Option (List Char) :=
  (["std::vector<", "std::array<"].map String.toList).find? (·.isPrefixOf type)

/-- The value of the first row of `rows` that lists `s` among its spellings: an
`if` chain of string comparisons, one row per `if`. -/
def firstRow (rows : List (List String × String)) (s : List Char) : Option (List Char) :=
  (rows.find? fun r => r.1.any (·.toList == s)).map (·.2.toList)

/-- The `if` chain of `cpp_scalar_to_proto_type`, in the order of the source. -/
def scalarRows : List (List String × String) :=
  [(["error_code"], "int32"),
   (["int8_t", "signed char"], "int32"),
   (["int16_t", "short", "short int", "signed short", "signed short int"], "int32"),
   (["int32_t", "int", "signed int", "signed"], "int32"),
   (["int64_t", "long", "long int", "signed long", "signed long int", "long long",
     "signed long long", "long long int", "signed long long int"], "int64"),
   (["uint8_t", "unsigned char"], "uint32"),
   (["uint16_t", "unsigned short", "unsigned short int"], "uint32"),
   (["uint32_t", "unsigned int", "unsigned"], "uint32"),
   (["uint64_t", "unsigned long", "unsigned long int", "unsigned long long",
     "unsigned long long int"], "uint64"),
   (["size_t"], "uint64"),
   (["ptrdiff_t", "ssize_t", "intptr_t"], "int64"),
   (["uintptr_t"], "uint64"),
   (["float"], "float"),
   (["double", "long double"], "double"),
   (["bool"], "bool"),
   (["char", "wchar_t", "char16_t", "char32_t"], "int32"),
   (["std::string", "string"], "string"),
   (["char*", "const char*", "char *", "const char *"], "string")]

/-- `cpp_scalar_to_proto_type`: the proto scalar of a C++ scalar spelling, or the
empty string. -/
def cppScalarToProtoType (type : List Char) : List Char :=
  (firstRow scalarRows type).getD []

/-- The `::` of a name turned into `.`, left to right (the loop of
`sanitize_type_name`, which resumes the search after the `.` it wrote). -/
def replaceColons : List Char → List Char
  | ':' :: ':' :: rest => '.' :: replaceColons rest
  | c :: rest => c :: replaceColons rest
  | [] => []

/-- `sanitize_type_name`: `::` becomes `.`, a `_` goes in front of a first
character that is neither a letter nor `_`, and every character other than a
letter, a digit, `_` and `.` becomes `_`. -/
def sanitizeTypeName (typeName : List Char) : List Char :=
  let result := replaceColons typeName
  let result := match result with
    | c :: _ => if c.isAlpha || c == '_' then result else '_' :: result
    | [] => []
  result.map fun c => if c.isAlphanum || c == '_' || c == '.' then c else '_'

/-- `sanitize_field_name`: every character other than a letter, a digit and `_`
becomes `_`, then a `_` goes in front of a first character that is not a letter
or `_`. -/
def sanitizeFieldName (fieldName : List Char) : List Char :=
  let result := fieldName.map fun c => if c.isAlphanum || c == '_' then c else '_'
  match result with
  | c :: _ => if c.isAlpha || c == '_' then result else '_' :: result
  | [] => []

/-- The short names `cpp_type_to_proto_type` gives common template arguments
(lines 406-430), in the order of the source. -/
def suffixRows : List (List String × String) :=
  [(["int", "int32_t"], "int"),
   (["uint32_t", "unsigned int", "unsigned"], "uint"),
   (["int64_t", "long", "long long"], "int64"),
   (["uint64_t", "unsigned long", "unsigned long long"], "uint64"),
   (["int16_t", "short"], "int16"),
   (["uint16_t", "unsigned short"], "uint16"),
   (["int8_t", "signed char"], "int8"),
   (["uint8_t", "unsigned char"], "uint8"),
   (["std::string", "string"], "string"),
   (["float"], "float"),
   (["double"], "double"),
   (["bool"], "bool")]

/-- The suffix of the message a template instantiation becomes: a short name
for a common argument, the sanitized argument otherwise. -/
def templateSuffix (inner : List Char) : List Char :=
  (firstRow suffixRows inner).getD (sanitizeTypeName inner)

/-- The vector spellings `cpp_type_to_proto_type` turns into `bytes`. -/
def byteVectorSpellings : List String :=
  ["std::vector<uint8_t>", "std::vector<unsigned char>", "std::vector<char>",
   "std::vector<signed char>"]

/-- Lines 303-323 of `cpp_type_to_proto_type`: whether a `*` is left once a
leading `const ` is dropped, and the text before the first `&` and the first
`*`, trimmed. -/
def stripModifiers (cppType : List Char) : Bool × List Char :=
  let type := if "const ".toList.isPrefixOf cppType then cppType.drop 6 else cppType
  (decide ('*' ∈ type), trimWhitespace ((type.takeWhile (· != '&')).takeWhile (· != '*')))

/-- Lines 380-444 of `cpp_type_to_proto_type`: a type that is neither a byte
vector nor a container. -/
def protoOfNamed (type : List Char) : List Char :=
  if "rpc::shared_ptr<".toList.isPrefixOf type || "rpc::optimistic_ptr<".toList.isPrefixOf type
  then "rpc.interface_descriptor".toList
  else if cppScalarToProtoType type ≠ [] then cppScalarToProtoType type
  else if '<' ∈ type ∧ '>' ∈ type then
    match extractTemplateContent type (type.indexOf '<') with
    | some (_, inner) => type.take (type.indexOf '<') ++ '_' :: templateSuffix inner
    | none => type
  else type

/-- Lines 329-444 of `cpp_type_to_proto_type`, on a type stripped of its
modifiers; `rec` stands for the recursive call. -/
def protoOfStripped (rec : List Char → List Char) (type : List Char) : List Char :=
  if byteVectorSpellings.any (·.toList == type) then "bytes".toList
  else if (isMapType type).isSome then
    match extractTemplateContent type (type.indexOf '<') with
    | some (_, inner) =>
      match splitTemplateArgs inner with
      | some (key, value) => "map<".toList ++ rec key ++ ", ".toList ++ rec value ++ ">".toList
      | none => "map<string, string>".toList
    | none => "map<string, string>".toList
  else match isSequenceType type with
  | some pre =>
    match extractTemplateContent type (type.indexOf '<') with
    | some (_, inner) =>
      match pre == "std::array<".toList, splitTemplateArgs inner with
      | true, some (elem, _) => "repeated ".toList ++ rec elem
      | _, _ => "repeated ".toList ++ rec inner
    | none => "repeated string".toList
  | none => protoOfNamed type

/-- `cpp_type_to_proto_type` with `fuel` bounding the depth of its recursion. -/
def cppTypeToProtoTypeAux : Nat → List Char → List Char
  | 0, _ => []
  | fuel + 1, cppType =>
    match stripModifiers cppType with
    | (true, _) => "uint64".toList
    | (false, type) => protoOfStripped (cppTypeToProtoTypeAux fuel) type

/-- `cpp_type_to_proto_type`: a pointer is an address, `std::vector` of a byte
spelling is `bytes`, maps and sequences recurse on their arguments, interface
pointers are `rpc.interface_descriptor`, scalars follow `scalarRows`, a user
template instantiation names its concrete message, any other type is its own
name. -/
def cppTypeToProtoType (cppType : List Char) : List Char :=
  cppTypeToProtoTypeAux (cppType.length + 1) cppType

/-! ### The bracket loops at their last character -/

@[simp] theorem closeAfter_close_one {s : List Char} : closeAfter ('>' :: s) 1 = some 1 := by
  simp [closeAfter]

@[simp] theorem splitAtTopComma_comma_zero {s : List Char} : splitAtTopComma 0 (',' :: s) = some ([], s) := by
  simp [splitAtTopComma]

@[simp] theorem prependFirst_nil : prependFirst [] = id := rfl

@[simp] theorem prependFirst_prependFirst (v w : List Char) (p : List Char × List Char) :
    prependFirst v (prependFirst w p) = prependFirst (v ++ w) p := by
  simp [prependFirst]

@[simp] theorem prependFirst_comp (v w : List Char) :
    prependFirst v ∘ prependFirst w = prependFirst (v ++ w) :=
  funext (prependFirst_prependFirst v w)

/-! ### Trimming, and the modifiers of a type -/

theorem dropWhile_space_of_head {s : List Char} (h : s.head? ≠ some ' ') :
    s.dropWhile (· == ' ') = s := by
  cases s with
  | nil => rfl
  | cons c s => simp_all [List.dropWhile_cons]

theorem trimWhitespace_eq_self {s : List Char} (h₁ : s.head? ≠ some ' ')
    (h₂ : s.getLast? ≠ some ' ') : trimWhitespace s = s := by
  rw [trimWhitespace, dropWhile_space_of_head h₁,
    dropWhile_space_of_head (by rwa [List.head?_reverse]), List.reverse_reverse]

@[simp] theorem trimWhitespace_cons_space (s : List Char) :
    trimWhitespace (' ' :: s) = trimWhitespace s := by
  simp [trimWhitespace]

theorem stripModifiers_of_plain {s : List Char} (hc : ¬ "const ".toList <+: s) (hp : '*' ∉ s)
    (hr : '&' ∉ s) (h₁ : s.head? ≠ some ' ') (h₂ : s.getLast? ≠ some ' ') :
    stripModifiers s = (false, s) := by
  have hc' : "const ".toList.isPrefixOf s = false := by
    rw [← Bool.not_eq_true, List.isPrefixOf_iff_prefix]; exact hc
  have ha : s.takeWhile (· != '&') = s :=
    List.takeWhile_eq_self_iff.2 fun c hc => by simpa using ne_of_mem_of_not_mem hc hr
  have hs : s.takeWhile (· != '*') = s :=
    List.takeWhile_eq_self_iff.2 fun c hc => by simpa using ne_of_mem_of_not_mem hc hp
  simp only [stripModifiers, hc', Bool.false_eq_true, ite_false, ha, hs,
    trimWhitespace_eq_self h₁ h₂, decide_eq_false hp]

theorem stripModifiers_const {s : List Char} (hc : ¬ "const ".toList <+: s) :
    stripModifiers ("const ".toList ++ s) = stripModifiers s := by
  have hc' : "const ".toList.isPrefixOf s = false := by
    rw [← Bool.not_eq_true, List.isPrefixOf_iff_prefix]; exact hc
  have hd : ("const ".toList ++ s).drop 6 = s := List.drop_left' rfl
  simp only [stripModifiers, hc', Bool.false_eq_true, ite_false, hd, ite_true,
    List.isPrefixOf_iff_prefix.2 (List.prefix_append _ _)]

theorem stripModifiers_amp {s : List Char} (hr : '&' ∉ s) :
    stripModifiers (s ++ ['&']) = stripModifiers s := by
  have hc : "const ".toList.isPrefixOf (s ++ ['&']) = "const ".toList.isPrefixOf s := by
    rw [Bool.eq_iff_iff, List.isPrefixOf_iff_prefix, List.isPrefixOf_iff_prefix,
      List.prefix_concat_iff]
    exact or_iff_right fun h => absurd (congrArg ('&' ∈ ·) h) (by simp)
  have hkeep : ∀ t : List Char, '&' ∉ t → t.takeWhile (· != '&') = t := fun t ht =>
    List.takeWhile_eq_self_iff.2 fun c hc => by simpa using ne_of_mem_of_not_mem hc ht
  have hcut : ∀ t : List Char, '&' ∉ t → (t ++ ['&']).takeWhile (· != '&') = t := fun t ht => by
    rw [List.takeWhile_append_of_pos fun c hc => by simpa using ne_of_mem_of_not_mem hc ht]
    simp
  unfold stripModifiers
  rw [hc]
  split
  · rename_i h
    have h6 : 6 ≤ s.length := by
      simpa using (List.isPrefixOf_iff_prefix.1 h).length_le
    have hr' : '&' ∉ s.drop 6 := fun h => hr (List.mem_of_mem_drop h)
    dsimp only
    rw [List.drop_append_of_le_length h6, hcut _ hr', hkeep _ hr']
    simp
  · simp [hcut s hr, hkeep s hr]

/-- The pointer test sees through the dropped `const `, which holds no `*`. -/
theorem stripModifiers_fst (s : List Char) : (stripModifiers s).1 = decide ('*' ∈ s) := by
  unfold stripModifiers
  split
  · rename_i h
    obtain ⟨t, rfl⟩ := List.isPrefixOf_iff_prefix.1 h
    simp [List.drop_left' (show "const ".toList.length = 6 from rfl)]
  · rfl

/-- One unfolding of `cpp_type_to_proto_type`. -/
theorem cppTypeToProtoTypeAux_succ (n : Nat) (s : List Char) :
    cppTypeToProtoTypeAux (n + 1) s =
      if (stripModifiers s).1 then "uint64".toList
      else protoOfStripped (cppTypeToProtoTypeAux n) (stripModifiers s).2 := by
  rw [cppTypeToProtoTypeAux]
  split <;> simp_all

theorem extractTemplateContent_first {p body : List Char} (hp : '<' ∉ p) :
    extractTemplateContent (p ++ '<' :: body) ((p ++ '<' :: body).indexOf '<') =
      (closeAfter body 1).map fun k => (p.length + 1 + k, body.take (k - 1)) := by
  rw [List.indexOf_append_of_not_mem hp, List.indexOf_cons_self, Nat.add_zero,
    extractTemplateContent, List.drop_left]
  rfl

end Protobuf
end Canopy
