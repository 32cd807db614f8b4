/-
# Writing an output only when it changed

`generator/src/main.cpp`: `is_different` (lines 54-65) and the
compare-and-write blocks of `main` (lines 263-354, 357-398, 492-525).  For
each output, `main` reads the file as it stands with
`std::getline(file, data, '\0')`, generates the new text into a
`std::stringstream`, appends a NUL with `<< ends`, and writes the stream over
the file when `is_different` says the two differ; `is_different` drops the last
character of the stream, the NUL, before it compares.

Two outputs depart from this.  The mock is compared with `!=` against the whole
stream, NUL included, so it is rewritten on every run
(`OutputFile.rewrites_mock`).  The JSON schema stream gets no `ends`, so
`is_different` drops the schema's own last character: a schema is rewritten
when it has not changed, and is not rewritten when the new schema is the old
one plus one character (`OutputFile.rewrites_jsonSchema`).  For the six other
outputs a run rewrites the file exactly when the text changed, and the file
then reads back as the new text, from whatever the file held before
(`OutputFile.runs_terminated`).
-/

import Mathlib.Data.List.Basic

namespace Canopy
namespace Main

/-- The character `<< ends` writes, at which `std::getline(file, data, '\0')`
stops. -/
def nul : Char := '\x00'

/-- `is_different`: the stream without its last character against the data
read back; an empty stream differs only from empty data. -/
def isDifferent (stream data : List Char) : Bool :=
  if stream.isEmpty then data.isEmpty
  else stream.dropLast != data

/-- `std::getline(file, data, '\0')`: the text of the file up to its first NUL,
and nothing when there is no file. -/
def readExisting (file : Option (List Char)) : List Char :=
  (file.getD []).takeWhile (· != nul)

/-- The files `main` compares and writes. -/
inductive OutputFile
  | header
  | proxy
  | stub
  | stubHeader
  | mock
  | yas
  | protobufCpp
  | jsonSchema
  deriving DecidableEq, Repr

namespace OutputFile

/-- The stream `main` compares and writes: the generated text and the NUL of
`<< ends`, which the JSON schema stream does not get. -/
def stream : OutputFile → List Char → List Char
  | jsonSchema, text => text
  | _, text => text ++ [nul]

/-- Whether `main` rewrites the file: `is_different`, but for the mock, which
compares the data read back with the whole stream. -/
def rewrites : OutputFile → List Char → Option (List Char) → Bool
  | mock, text, file => readExisting file != mock.stream text
  | o, text, file => isDifferent (o.stream text) (readExisting file)

/-- The file after one run of `main` that generated `text`: `file << stream.str()`
when it rewrites, the file as it was otherwise. -/
def write (o : OutputFile) (text : List Char) (file : Option (List Char)) : Option (List Char) :=
  if o.rewrites text file then some (o.stream text) else file

/-- Successive runs of `main` on one output: which of them rewrote the file, and
the file after the last. -/
def runs (o : OutputFile) : List (List Char) → Option (List Char) → List Bool × Option (List Char)
  | [], file => ([], file)
  | text :: texts, file =>
    let (rewritten, last) := o.runs texts (o.write text file)
    (o.rewrites text file :: rewritten, last)

/-- The outputs whose stream ends in the NUL and that are compared by
`is_different`. -/
def Terminated (o : OutputFile) : Prop := o ≠ mock ∧ o ≠ jsonSchema

instance (o : OutputFile) : Decidable o.Terminated := inferInstanceAs (Decidable (_ ∧ _))

end OutputFile

/-- Which of a sequence of texts differ from the one before, `prev` being the
text before the first. -/
def changes : List Char → List (List Char) → List Bool
  | _, [] => []
  | prev, text :: texts => (text != prev) :: changes text texts

/-! ### Reading back -/

theorem readExisting_some {text : List Char} (h : nul ∉ text) : readExisting (some text) = text :=
  List.takeWhile_eq_self_iff.2 fun c hc => by simpa using ne_of_mem_of_not_mem hc h

theorem readExisting_terminated {text : List Char} (h : nul ∉ text) :
    readExisting (some (text ++ [nul])) = text := by
  rw [readExisting, Option.getD_some, List.takeWhile_append_of_pos fun c hc => by
    simpa using ne_of_mem_of_not_mem hc h]
  simp [nul]

theorem isDifferent_terminated (text data : List Char) :
    isDifferent (text ++ [nul]) data = (text != data) := by
  simp [isDifferent]

namespace OutputFile

variable {o : OutputFile} {text : List Char} {file : Option (List Char)}

theorem stream_terminated (ho : o.Terminated) : o.stream text = text ++ [nul] := by
  cases o <;> simp_all [Terminated, stream]

theorem rewrites_terminated (ho : o.Terminated) :
    o.rewrites text file = (text != readExisting file) := by
  have : o.rewrites text file = isDifferent (o.stream text) (readExisting file) := by
    cases o <;> simp_all [Terminated, rewrites]
  rw [this, stream_terminated ho, isDifferent_terminated]

/-- **One run.**  An output ending in the NUL is rewritten exactly when its text
differs from what the file reads back as, and afterwards the file reads back as
the text. -/
theorem write_terminated (ho : o.Terminated) (hc : nul ∉ text) :
    (o.rewrites text file = true ↔ text ≠ readExisting file) ∧
      readExisting (o.write text file) = text := by
  rw [rewrites_terminated ho, bne_iff_ne]
  refine ⟨Iff.rfl, ?_⟩
  unfold write
  rw [rewrites_terminated ho]
  by_cases h : text = readExisting file
  · simp [h]
  · simp [h, stream_terminated ho, readExisting_terminated hc]

/-- **Every run.**  Over successive runs of `main`, an output ending in the NUL
is rewritten exactly at the runs whose text differs from the run before, and
the file reads back as the last text. -/
theorem runs_terminated (ho : o.Terminated) : ∀ (texts : List (List Char)) (file : Option (List Char)),
    (∀ text ∈ texts, nul ∉ text) →
      (o.runs texts file).1 = changes (readExisting file) texts ∧
      readExisting (o.runs texts file).2 = texts.getLast?.getD (readExisting file)
  | [], _, _ => ⟨rfl, rfl⟩
  | text :: texts, file, hc => by
      have hstep := @write_terminated o text file ho (hc text (List.mem_cons_self _ _))
      have ih := runs_terminated ho texts (o.write text file) fun t ht => hc t (List.mem_cons_of_mem _ ht)
      rw [hstep.2] at ih
      refine ⟨?_, ?_⟩
      · simp only [runs, changes, ih.1, rewrites_terminated ho]
      · rw [runs, ih.2]
        cases texts <;> simp [List.getLast?_cons]

theorem runs_terminated_header :
    (header.runs ["a".toList, "a".toList] none).1 = changes (readExisting none) ["a".toList, "a".toList] ∧
    readExisting (header.runs ["a".toList, "a".toList] none).2 =
      ["a".toList, "a".toList].getLast?.getD (readExisting none) :=
  runs_terminated (by decide) _ _ (by decide)

/-- The mock is rewritten on every run that follows one of `main`'s. -/
theorem rewrites_mock (prev : List Char) (hc : nul ∉ prev) :
    mock.rewrites text (some (mock.stream prev)) = true := by
  simp only [rewrites, stream, readExisting_terminated hc, bne_iff_ne, ne_eq]
  intro h
  exact hc (h ▸ List.mem_append_right _ (List.mem_singleton_self nul))

/-- The JSON schema is compared without its last character. -/
theorem rewrites_jsonSchema (prev : List Char) (hc : nul ∉ prev) :
    jsonSchema.rewrites text (some (jsonSchema.stream prev)) =
      if text.isEmpty then prev.isEmpty else text.dropLast != prev := by
  simp only [rewrites, stream, isDifferent, readExisting_some hc]

/-- **A lost update.**  A JSON schema that is the previous one plus one character
is not written: the file keeps the previous schema. -/
theorem write_jsonSchema_append (prev : List Char) (c : Char) (hc : nul ∉ prev) :
    jsonSchema.write (prev ++ [c]) (some (jsonSchema.stream prev)) = some prev := by
  rw [write, rewrites_jsonSchema prev hc]
  simp [stream]

/-- `main` rewrites an unchanged mock, and leaves the JSON schema `[1]` in place
when the new one is `[1]` and a newline. -/
theorem write_counterexample :
    mock.rewrites "x".toList (some (mock.stream "x".toList)) = true ∧
    jsonSchema.rewrites "[1]\n".toList (some (jsonSchema.stream "[1]".toList)) = false ∧
    readExisting (jsonSchema.write "[1]\n".toList (some (jsonSchema.stream "[1]".toList))) =
      "[1]".toList := by
  decide

end OutputFile

end Main
end Canopy
