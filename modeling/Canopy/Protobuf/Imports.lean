/-
# Where an imported IDL's schema is, and where it was written

Two sides compute the path of the master `.proto` file of an IDL.  The IDL
that imports it turns the import string into a proto import in
`write_imports` (`generator/src/protobuf_generator.cpp`, lines 642-718): the
text before the first `.idl`, its directory part kept whole, becomes
`<dir>/protobuf/<file>_all.proto`.  The IDL itself was generated by `main`
(`generator/src/main.cpp`, lines 142-166 and 407-434) and `write_files`
(lines 1414-1419), which keep only the name of the immediate parent directory
of the `--idl` argument: the master file is
`<directory>/protobuf/<name>_all.proto` under `output_path/src`.

The `std::filesystem::path` operations `main` and `write_files` use are
modelled on relative paths written with `/`: `parentPath`, `fileName`, `stem`
and `pathAppend` (`operator/`).

The two agree for an import string with at most one directory
(`protoImportOf_amended`); with more, the import keeps the directories the
master file's path does not have.

`main` also lists the import libraries of the root's classes with `get_imports`
(`generator/src/main.cpp`, lines 39-51), for the header: each once, in the
order it first appears, and they are the libraries `write_imports` imports the
master files of (`getImports_spec`), in the order of its `std::set`.
-/

import Mathlib.Data.List.Infix
import Mathlib.Data.List.Dedup
import Mathlib.Data.List.Sort

namespace Canopy
namespace Protobuf

/-- `std::string::find` of a text: the first position at which `pat` starts. -/
def findSub (pat : List Char) : List Char → Option Nat
  | [] => if pat = [] then some 0 else none
  | c :: cs => if pat.isPrefixOf (c :: cs) then some 0 else (findSub pat cs).map (· + 1)

/-- The position of the last `c` of a text. -/
def rfindChar (c : Char) : List Char → Option Nat
  | [] => none
  | x :: xs =>
    match rfindChar c xs with
    | some i => some (i + 1)
    | none => if x = c then some 0 else none

/-- The proto import `write_imports` derives from one import string. -/
def protoImportOf (importLib : List Char) : List Char :=
  match findSub ".idl".toList importLib with
  | none => importLib
  | some pos =>
    let (dirPart, filePart) :=
      match rfindChar '/' (importLib.take (pos + 1)) with
      | some lastSlash =>
        (importLib.take lastSlash, (importLib.drop (lastSlash + 1)).take (pos - lastSlash - 1))
      | none => ([], importLib.take pos)
    let protoImport :=
      if !dirPart.isEmpty then dirPart ++ "/protobuf/".toList ++ filePart ++ "_all.proto".toList
      else "protobuf/".toList ++ filePart ++ "_all.proto".toList
    if protoImport.head? = some '/' then protoImport.drop 1 else protoImport

/-- `std::string`'s `operator<`, by which a `std::set` of paths is ordered: the
first character that differs decides, and a proper prefix comes first. -/
def stringLess : List Char → List Char → Bool
  | _, [] => false
  | [], _ :: _ => true
  | c :: cs, d :: ds => decide (c.toNat < d.toNat) || (c == d && stringLess cs ds)

/-- The imports `write_imports` writes for the import strings of the IDL's
classes: each once, in the order of the `std::set` `unique_imports`. -/
def writeImports (importLibs : List (List Char)) : List (List Char) :=
  ((importLibs.filter fun l => !l.isEmpty).map protoImportOf).dedup.insertionSort fun a b => stringLess a b = true

/-- `get_imports` (`generator/src/main.cpp`, lines 39-51) over the import
libraries of the root's classes: one that is not empty and that `imports_cache`
does not hold yet is inserted into the cache and pushed onto `imports`. -/
def getImports : List (List Char) → List (List Char) × List (List Char) → List (List Char) × List (List Char)
  | [], acc => acc
  | lib :: libs, (imports, cache) =>
    getImports libs (if lib.isEmpty || cache.contains lib then (imports, cache) else (imports ++ [lib], lib :: cache))

/-! ### The paths `main` writes to -/

/-- `std::filesystem::path::filename`: what follows the last `/`. -/
def fileName (p : List Char) : List Char :=
  (p.reverse.takeWhile (· != '/')).reverse

/-- `std::filesystem::path::parent_path`: what precedes the last `/`. -/
def parentPath (p : List Char) : List Char :=
  ((p.reverse.dropWhile (· != '/')).drop 1).reverse

/-- `std::filesystem::path::stem` of a file name: the name without its last
extension; a name whose only `.` is its first character has none. -/
def stem (f : List Char) : List Char :=
  if f = ".".toList ∨ f = "..".toList then f
  else match f.reverse.dropWhile (· != '.') with
    | _ :: rest@(_ :: _) => rest.reverse
    | _ => f

/-- `path_prefix`: the parent directory's name, if any, then the `--name`. -/
def pathPrefix (directory name : List Char) : List Char :=
  if directory.isEmpty then name else directory ++ '/' :: name

/-- `proxy_path`. -/
def proxyPath (directory name : List Char) : List Char :=
  pathPrefix directory name ++ "_proxy.cpp".toList

/-- `base_filename`: the stem of `proxy_path`, without its `_proxy`. -/
def protobufBaseFilename (proxyPath : List Char) : List Char :=
  let baseFilename := stem (fileName proxyPath)
  if baseFilename.length > 6 ∧ baseFilename.drop (baseFilename.length - 6) = "_proxy".toList then
    baseFilename.take (baseFilename.length - 6)
  else baseFilename

/-- `p / q` of `std::filesystem::path` for a relative `q`: `q` after `p`, with a
`/` between them when `p` has a file name, that is when it is neither empty nor
ends in `/`.  Every `q` the generator appends is relative. -/
def pathAppend (p q : List Char) : List Char :=
  (if p.isEmpty || p.getLast? == some '/' then p else p ++ ['/']) ++ q

/-- `sub_directory`: the parent directory of `proxy_path`, then `protobuf`. -/
def protobufSubDirectory (proxyPath : List Char) : List Char :=
  let parentDirectory := parentPath proxyPath
  if parentDirectory.isEmpty then "protobuf".toList else pathAppend parentDirectory "protobuf".toList

/-- The master file of `write_files`, relative to `output_path/src`:
`sub_directory / master_filename`. -/
def masterRelativePath (subDirectory baseFilename : List Char) : List Char :=
  pathAppend subDirectory (fileName baseFilename ++ "_all.proto".toList)

/-- Where `main` and `write_files` put the master file of an IDL generated with
`--name name` from a path whose parent directory is `directory`. -/
def masterFilePath (directory name : List Char) : List Char :=
  masterRelativePath (protobufSubDirectory (proxyPath directory name))
    (protobufBaseFilename (proxyPath directory name))

/-- The directories of a path, each followed by its `/`. -/
def dirPrefix (dirs : List (List Char)) : List Char :=
  (dirs.map (· ++ ['/'])).flatten

/-! ### The scans of `write_imports` -/

theorem findSub_of_first {pat : List Char} : ∀ (n : Nat) {s : List Char},
    (∀ i < n, ¬ pat <+: s.drop i) → pat <+: s.drop n → findSub pat s = some n
  | 0, [], _, hn => by simp_all [findSub, List.prefix_nil]
  | 0, c :: cs, _, hn => by simp [findSub, List.isPrefixOf_iff_prefix.2 (by simpa using hn)]
  | n + 1, [], h, hn => absurd (List.prefix_nil.1 (by simpa using hn))
      (by simpa [List.prefix_nil] using h 0 (Nat.succ_pos n))
  | n + 1, c :: cs, h, hn => by
      have h0 : pat.isPrefixOf (c :: cs) = false := by
        rw [← Bool.not_eq_true, List.isPrefixOf_iff_prefix]; exact h 0 (Nat.succ_pos n)
      rw [findSub, h0, if_neg Bool.false_ne_true,
        findSub_of_first n (fun i hi => h (i + 1) (by omega)) hn]
      rfl

theorem rfindChar_eq_none {c : Char} : ∀ {r : List Char}, c ∉ r → rfindChar c r = none
  | [], _ => rfl
  | x :: xs, h => by
      rw [List.mem_cons, not_or] at h
      simp [rfindChar, rfindChar_eq_none h.2, Ne.symm h.1]

theorem rfindChar_last {c : Char} {r : List Char} (hr : c ∉ r) :
    ∀ w : List Char, rfindChar c (w ++ c :: r) = some w.length
  | [] => by simp [rfindChar, rfindChar_eq_none hr]
  | x :: w => by simp [rfindChar, rfindChar_last hr w]

/-- An import string with no directory. -/
theorem protoImportOf_file {name : List Char} (hn : '/' ∉ name)
    (hfirst : ∀ i < name.length, ¬ ".idl".toList <+: (name ++ ".idl".toList).drop i) :
    protoImportOf (name ++ ".idl".toList) = "protobuf/".toList ++ name ++ "_all.proto".toList := by
  have hpos : findSub ".idl".toList (name ++ ".idl".toList) = some name.length :=
    findSub_of_first _ hfirst (by simp)
  have hslash : rfindChar '/' ((name ++ ".idl".toList).take (name.length + 1)) = none :=
    rfindChar_eq_none (by
      simp [List.take_append_eq_append_take, List.take_of_length_le (Nat.le_succ _), hn])
  rw [protoImportOf, hpos]
  dsimp only
  rw [hslash]
  simp

/-- An import string with a directory part: the directory part is kept whole. -/
theorem protoImportOf_dir {w name : List Char} (hw : w ≠ []) (hw' : w.head? ≠ some '/')
    (hn : '/' ∉ name)
    (hfirst : ∀ i < (w ++ '/' :: name).length,
      ¬ ".idl".toList <+: (w ++ '/' :: (name ++ ".idl".toList)).drop i) :
    protoImportOf (w ++ '/' :: (name ++ ".idl".toList)) =
      w ++ "/protobuf/".toList ++ name ++ "_all.proto".toList := by
  have hpos : findSub ".idl".toList (w ++ '/' :: (name ++ ".idl".toList)) =
      some (w ++ '/' :: name).length :=
    findSub_of_first _ hfirst (by simp)
  have hslash : rfindChar '/' ((w ++ '/' :: (name ++ ".idl".toList)).take
      ((w ++ '/' :: name).length + 1)) = some w.length := by
    rw [show (w ++ '/' :: (name ++ ".idl".toList)).take ((w ++ '/' :: name).length + 1) =
      w ++ '/' :: (name ++ ['.']) by
      simp only [List.length_append, List.length_cons]
      rw [List.take_append_eq_append_take, List.take_of_length_le (by omega),
        show w.length + (name.length + 1) + 1 - w.length = name.length + 1 + 1 by omega]
      simp [List.take_append_eq_append_take]]
    exact rfindChar_last (by simp [hn]) w
  rw [protoImportOf, hpos]
  dsimp only
  rw [hslash]
  simp [hw, List.head?_append_of_ne_nil _ hw, hw']

/-! ### The paths of `main` -/

section Paths

variable {w x : List Char}

theorem fileName_of_not_mem (h : '/' ∉ x) : fileName x = x := by
  rw [fileName, List.takeWhile_eq_self_iff.2 fun c hc => by
    simpa using ne_of_mem_of_not_mem hc (by simpa using h), List.reverse_reverse]

theorem fileName_slash (h : '/' ∉ x) : fileName (w ++ '/' :: x) = x := by
  rw [fileName, List.reverse_append, List.reverse_cons, List.append_assoc,
    List.takeWhile_append_of_pos fun c hc => by
      simpa using ne_of_mem_of_not_mem hc (by simpa using h)]
  simp

theorem parentPath_of_not_mem (h : '/' ∉ x) : parentPath x = [] := by
  rw [parentPath, List.dropWhile_eq_nil_iff.2 fun c hc => by
    simpa using ne_of_mem_of_not_mem hc (by simpa using h)]
  rfl

theorem parentPath_slash (h : '/' ∉ x) : parentPath (w ++ '/' :: x) = w := by
  rw [parentPath, List.reverse_append, List.reverse_cons, List.append_assoc,
    List.dropWhile_append_of_pos fun c hc => by
      simpa using ne_of_mem_of_not_mem hc (by simpa using h)]
  simp

theorem stem_proxy (name : List Char) : stem (name ++ "_proxy.cpp".toList) = name ++ "_proxy".toList := by
  have hlen : ¬ (name ++ "_proxy.cpp".toList = ".".toList ∨ name ++ "_proxy.cpp".toList = "..".toList) :=
    fun h => by rcases h with h | h <;> have := congrArg List.length h <;> simp at this
  rw [stem, if_neg hlen]
  simp [List.reverse_append]

theorem protobufBaseFilename_proxy {name : List Char} (hn : name ≠ []) :
    ∀ p, fileName p = name ++ "_proxy.cpp".toList → protobufBaseFilename p = name := by
  intro p hp
  rw [protobufBaseFilename, hp, stem_proxy]
  have hlen : name.length + 6 - 6 = name.length := Nat.add_sub_cancel _ _
  simp [List.length_pos.2 hn, hlen]

end Paths

/-- `p / q` for a `p` that has a file name. -/
theorem pathAppend_of_getLast {p : List Char} {c : Char} (h : p.getLast? = some c) (hc : c ≠ '/') (q : List Char) :
    pathAppend p q = p ++ '/' :: q := by
  have hp : p ≠ [] := by rintro rfl; simp at h
  simp [pathAppend, hp, h, hc]

/-- Where the master file is: under the parent directory's name, if there is
one. -/
theorem masterFilePath_eq {directory name : List Char} (hd : '/' ∉ directory) (hn : name ≠ [])
    (hn' : '/' ∉ name) :
    masterFilePath directory name =
      dirPrefix (if directory = [] then [] else [directory]) ++ "protobuf/".toList ++ name ++
        "_all.proto".toList := by
  have hx : '/' ∉ name ++ "_proxy.cpp".toList := by simp [hn']
  have hsub : ∀ w : List Char, pathAppend (w ++ "protobuf".toList) (name ++ "_all.proto".toList) =
      w ++ "protobuf/".toList ++ name ++ "_all.proto".toList := fun w => by
    rw [pathAppend_of_getLast (c := 'f') (by simp) (by decide)]
    simp
  by_cases h : directory = []
  · subst h
    have hp : proxyPath [] name = name ++ "_proxy.cpp".toList := by simp [proxyPath, pathPrefix]
    rw [masterFilePath, hp, masterRelativePath, protobufSubDirectory, parentPath_of_not_mem hx,
      protobufBaseFilename_proxy hn _ (fileName_of_not_mem hx), fileName_of_not_mem hn']
    simpa [dirPrefix] using hsub []
  · have hp : proxyPath directory name = directory ++ '/' :: (name ++ "_proxy.cpp".toList) := by
      simp [proxyPath, pathPrefix, h]
    have hlast : directory.getLast? ≠ some '/' := fun hl => hd (List.mem_of_getLast?_eq_some hl)
    obtain ⟨c, hc⟩ := Option.ne_none_iff_exists'.1 (mt List.getLast?_eq_none_iff.1 h)
    rw [masterFilePath, hp, masterRelativePath, protobufSubDirectory, parentPath_slash hx,
      protobufBaseFilename_proxy hn _ (fileName_slash hx), fileName_of_not_mem hn',
      pathAppend_of_getLast hc (fun e => hlast (e ▸ hc))]
    simpa [dirPrefix, h] using hsub (directory ++ ['/'])

theorem dirPrefix_append (L L' : List (List Char)) : dirPrefix (L ++ L') = dirPrefix L ++ dirPrefix L' := by
  simp [dirPrefix]

theorem dirPrefix_eq_nil {L : List (List Char)} : dirPrefix L = [] ↔ L = [] := by
  cases L <;> simp [dirPrefix]

/-- The directories kept by the import are those of the master file's path
exactly when there is one directory at most. -/
theorem dirPrefix_eq_last_iff (dirs : List (List Char)) :
    dirPrefix dirs = dirPrefix dirs.getLast?.toList ↔ dirs.length ≤ 1 := by
  rcases List.eq_nil_or_concat dirs with rfl | ⟨L, b, rfl⟩
  · simp
  · rw [List.concat_eq_append, List.getLast?_concat, Option.toList_some, dirPrefix_append, List.length_append,
      List.length_singleton]
    conv_lhs => rhs; rw [← List.nil_append (dirPrefix [b])]
    rw [List.append_cancel_right_eq, dirPrefix_eq_nil, ← List.length_eq_zero]
    omega

theorem head?_dirPrefix_append {L : List (List Char)} {x : List Char} (hL : ∀ d ∈ L, d ≠ [] ∧ '/' ∉ d)
    (hx : x.head? ≠ some '/') : (dirPrefix L ++ x).head? ≠ some '/' := by
  cases L with
  | nil => simpa [dirPrefix] using hx
  | cons d L =>
    obtain ⟨hd, hd'⟩ := hL d (List.mem_cons_self _ _)
    obtain ⟨c, d, rfl⟩ := List.exists_cons_of_ne_nil hd
    simp only [dirPrefix, List.map_cons, List.flatten_cons, List.cons_append, List.head?_cons,
      ne_eq, Option.some.injEq]
    rintro rfl
    exact hd' (List.mem_cons_self _ _)

/-- **The proto import of an import string.**  For an import string
`d₁/…/dₖ/name.idl` whose first `.idl` is its extension, `write_imports` keeps
the whole directory part: the import is `d₁/…/dₖ/protobuf/name_all.proto`.  It
is the path at which `main` wrote the master file of an IDL generated with
`--name name` from a path whose parent directory is `dₖ` (none when `k = 0`)
exactly when `k ≤ 1`. -/
theorem protoImportOf_amended (dirs : List (List Char)) (directory name : List Char)
    (hdirs : ∀ d ∈ dirs, d ≠ [] ∧ '/' ∉ d) (hn : name ≠ []) (hn' : '/' ∉ name)
    (hfirst : ∀ i < (dirPrefix dirs ++ name).length,
      ¬ ".idl".toList <+: (dirPrefix dirs ++ name ++ ".idl".toList).drop i)
    (hlast : dirs.getLast? = if directory = [] then none else some directory) :
    protoImportOf (dirPrefix dirs ++ name ++ ".idl".toList) =
      dirPrefix dirs ++ "protobuf/".toList ++ name ++ "_all.proto".toList ∧
    (protoImportOf (dirPrefix dirs ++ name ++ ".idl".toList) = masterFilePath directory name ↔
      dirs.length ≤ 1) := by
  have himport : protoImportOf (dirPrefix dirs ++ name ++ ".idl".toList) =
      dirPrefix dirs ++ "protobuf/".toList ++ name ++ "_all.proto".toList := by
    rcases List.eq_nil_or_concat dirs with rfl | ⟨L, b, rfl⟩
    · simpa [dirPrefix] using protoImportOf_file hn' (by simpa [dirPrefix] using hfirst)
    · rw [List.concat_eq_append] at hdirs hfirst ⊢
      have hb := hdirs b (List.mem_append_right _ (List.mem_singleton_self b))
      have hw : (dirPrefix L ++ b).head? ≠ some '/' :=
        head?_dirPrefix_append (fun d hd => hdirs d (List.mem_append_left _ hd))
          (fun h => hb.2 (List.mem_of_mem_head? h))
      have e : ∀ t, dirPrefix (L ++ [b]) ++ t = dirPrefix L ++ b ++ '/' :: t := fun t => by
        simp [dirPrefix_append, dirPrefix]
      rw [e, List.append_assoc] at hfirst ⊢
      rw [e, List.append_assoc, List.append_assoc]
      simp only [List.cons_append] at hfirst ⊢
      rw [← List.append_assoc, protoImportOf_dir (by simp [hb.1]) hw hn'
        (by simpa [List.append_assoc] using hfirst)]
      simp
  have hd : '/' ∉ directory := by
    by_cases h : directory = []
    · simp [h]
    · rw [if_neg h] at hlast
      exact (hdirs directory (List.mem_of_getLast?_eq_some hlast)).2
  have hlast' : (if directory = [] then [] else [directory]) = dirs.getLast?.toList := by
    rw [hlast]; split <;> rfl
  refine ⟨himport, ?_⟩
  rw [himport, masterFilePath_eq hd hn hn', hlast']
  simp only [List.append_assoc, List.append_cancel_right_eq]
  exact dirPrefix_eq_last_iff dirs

theorem protoImportOf_amended_rpc :
    protoImportOf (dirPrefix ["rpc".toList] ++ "rpc_types".toList ++ ".idl".toList) =
      masterFilePath "rpc".toList "rpc_types".toList :=
  (protoImportOf_amended ["rpc".toList] "rpc".toList "rpc_types".toList (by decide) (by decide)
    (by decide) (by decide) (by decide)).2.2 (by decide)

/-- `a/rpc/rpc_types.idl` is imported as `a/rpc/protobuf/rpc_types_all.proto`,
while the IDL generated from `.../rpc/rpc_types.idl` has its master file at
`rpc/protobuf/rpc_types_all.proto`. -/
theorem protoImportOf_counterexample :
    protoImportOf "a/rpc/rpc_types.idl".toList = "a/rpc/protobuf/rpc_types_all.proto".toList ∧
    masterFilePath "rpc".toList "rpc_types".toList = "rpc/protobuf/rpc_types_all.proto".toList := by
  decide

/-! ### The libraries `main` imports -/

/-- The list and the cache of `get_imports` run as the reversed accumulator of
`List.eraseDups`, over the libraries that are not empty. -/
theorem getImports_loop : ∀ (libs bs cache : List (List Char)), (∀ x, x ∈ cache ↔ x ∈ bs) →
    (getImports libs (bs.reverse, cache)).1 = List.eraseDups.loop (libs.filter (!·.isEmpty)) bs
  | [], _, _, _ => rfl
  | lib :: libs, bs, cache, h => by
    have hc : cache.contains lib = bs.elem lib := by
      simp only [List.contains, List.elem_eq_mem, h]
    rw [getImports, hc, List.filter_cons]
    cases he : lib.isEmpty
    · simp only [Bool.not_false, Bool.false_or, if_true]
      cases hb : bs.elem lib
      · rw [if_neg Bool.false_ne_true, List.eraseDups.loop, hb, ← List.reverse_cons]
        exact getImports_loop libs (lib :: bs) _ fun x => by simp [h]
      · rw [if_pos rfl, List.eraseDups.loop, hb]
        exact getImports_loop libs bs cache h
    · simp only [Bool.not_true, Bool.true_or, if_true, Bool.false_eq_true, if_false]
      exact getImports_loop libs bs cache h

/-- `get_imports` from an empty list and cache keeps the first occurrence of
each library that is not empty. -/
theorem getImports_eq (importLibs : List (List Char)) :
    (getImports importLibs ([], [])).1 = (importLibs.filter (!·.isEmpty)).eraseDups :=
  getImports_loop importLibs [] [] fun _ => Iff.rfl

theorem mem_eraseDups_loop (x : List Char) : ∀ (l bs : List (List Char)),
    x ∈ List.eraseDups.loop l bs ↔ x ∈ l ∨ x ∈ bs
  | [], bs => by simp [List.eraseDups.loop]
  | a :: l, bs => by
    rw [List.eraseDups.loop]
    cases hb : bs.elem a
    · rw [mem_eraseDups_loop x l (a :: bs)]
      simp only [List.mem_cons, or_assoc, or_left_comm]
    · have ha : a ∈ bs := by simpa using hb
      rw [mem_eraseDups_loop x l bs, List.mem_cons]
      refine ⟨fun h => h.imp_left .inr, ?_⟩
      rintro ((rfl | h) | h)
      exacts [.inr ha, .inl h, .inr h]

theorem nodup_eraseDups_loop : ∀ (l bs : List (List Char)), bs.Nodup → (List.eraseDups.loop l bs).Nodup
  | [], _, h => List.nodup_reverse.2 h
  | a :: l, bs, h => by
    rw [List.eraseDups.loop]
    cases hb : bs.elem a
    · exact nodup_eraseDups_loop l _ (List.nodup_cons.2 ⟨by simpa using hb, h⟩)
    · exact nodup_eraseDups_loop l bs h

/-- **The two import lists agree.**  `get_imports` names each import library of
the root's classes that is not empty once, in the order it first appears, and
`write_imports` imports the master `.proto` file of exactly these libraries. -/
theorem getImports_spec (importLibs : List (List Char)) :
    (getImports importLibs ([], [])).1 = (importLibs.filter (!·.isEmpty)).eraseDups ∧
    (getImports importLibs ([], [])).1.Nodup ∧
    (∀ l, l ∈ (getImports importLibs ([], [])).1 ↔ l ∈ importLibs ∧ l ≠ []) ∧
    ∀ p, p ∈ writeImports importLibs ↔ ∃ l ∈ (getImports importLibs ([], [])).1, protoImportOf l = p := by
  have hmem : ∀ l, l ∈ (getImports importLibs ([], [])).1 ↔ l ∈ importLibs ∧ l ≠ [] := fun l => by
    rw [getImports_eq, List.eraseDups, mem_eraseDups_loop]
    simp
  refine ⟨getImports_eq importLibs, getImports_eq importLibs ▸ nodup_eraseDups_loop _ _ List.nodup_nil, hmem,
    fun p => ?_⟩
  simp only [writeImports, List.mem_insertionSort, List.mem_dedup, List.mem_map, List.mem_filter, hmem]
  simp

end Protobuf
end Canopy
