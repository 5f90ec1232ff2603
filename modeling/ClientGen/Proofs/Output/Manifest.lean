import ClientGen.Output.Manifest
import ClientGen.Proofs.Collections
import ClientGen.Proofs.Json.Records

/-!
# Manifests that are kept

A manifest with readable keys is read back from its text in the order of its keys. The digests in it
are always readable. A manifest that is read from a text of somebody else can be kept as well.
-/

namespace ClientGen.Output

open Document Json Text

/-- What holds of the sixteen digits holds of all characters of a digest. -/
lemma of_mem_digest {P : Char → Prop} (h : ∀ d < 16, P (Nat.digitChar d)) (t : String) :
    ∀ c ∈ (Digest.ofText t).toList, P c := by
  have word (w : UInt32) : ∀ c ∈ (Digest.wordText w).toList, P c := by
    rw [Digest.wordText, String.toList_ofList]
    exact List.forall_mem_append.2
      ⟨fun _ hc => List.eq_of_mem_replicate hc ▸ h 0 (by decide), of_mem_toDigits h _⟩
  rw [Digest.ofText, Digest.ofBytes, String.toList_ofList]
  intro c hc
  have hc := List.mem_of_mem_take hc
  rw [Digest.hashText, String.toList_join, List.mem_flatMap] at hc
  obtain ⟨part, hpart, hc⟩ := hc
  obtain ⟨w, -, rfl⟩ := List.mem_map.1 hpart
  exact word w c hc

lemma isPlain_digest (t : String) : ∀ c ∈ (Digest.ofText t).toList, IsPlain c :=
  of_mem_digest (by decide) t

lemma notMem_slash_digest (t : String) : '/' ∉ (Digest.ofText t).toList := by
  have other : ∀ c ∈ (Digest.ofText t).toList, c ≠ '/' := of_mem_digest (by decide) t
  exact fun slash => other _ slash rfl

lemma isReadable_digest (t : String) : IsReadable (Digest.ofText t) :=
  isReadable_of_plain (isPlain_digest t)

namespace Manifest

variable {m : Manifest} {key content : String}

/-- A manifest that is read back from its text: each key has one entry, and no halves in keys and
digests are pairs. -/
structure IsWhole (m : Manifest) : Prop where
  nodup : (m.map Prod.fst).Nodup
  key : ∀ e ∈ m, Json.IsWhole e.1
  digest : ∀ e ∈ m, Json.IsWhole e.2

/-- Each key has one entry, and keys and digests are readable. -/
structure IsSound (m : Manifest) : Prop where
  nodup : (m.map Prod.fst).Nodup
  key : ∀ e ∈ m, IsReadable e.1
  digest : ∀ e ∈ m, IsReadable e.2

lemma IsSound.isWhole (h : m.IsSound) : m.IsWhole :=
  ⟨h.nodup, fun e he => isWhole_of_readable (h.key e he),
    fun e he => isWhole_of_readable (h.digest e he)⟩

lemma isSound_nil : IsSound [] :=
  ⟨List.nodup_nil, by simp, by simp⟩

lemma mem_sorted {e : String × String} : e ∈ m.sorted ↔ e ∈ m :=
  List.mem_mergeSort

lemma isWhole_sorted (h : m.IsWhole) : m.sorted.IsWhole where
  nodup := ((List.mergeSort_perm m _).map _).nodup_iff.2 h.nodup
  key e he := h.key e (mem_sorted.1 he)
  digest e he := h.digest e (mem_sorted.1 he)

lemma isSound_sorted (h : m.IsSound) : m.sorted.IsSound where
  nodup := ((List.mergeSort_perm m _).map _).nodup_iff.2 h.nodup
  key e he := h.key e (mem_sorted.1 he)
  digest e he := h.digest e (mem_sorted.1 he)

/-- A manifest stays sound when a file is remembered. -/
lemma IsSound.setEntry (h : m.IsSound) (hk : IsReadable key) :
    IsSound (setEntry key (Digest.ofText content) m) where
  nodup := by
    rw [map_fst_setEntry]
    exact nodup_addNew key h.nodup
  key e he := by
    obtain rfl | he := mem_setEntry he
    · exact hk
    · exact h.key e he
  digest e he := by
    obtain rfl | he := mem_setEntry he
    · exact isReadable_digest content
    · exact h.digest e he

lemma IsWhole.setEntry (h : m.IsWhole) (hk : Json.IsWhole key) :
    IsWhole (setEntry key (Digest.ofText content) m) where
  nodup := by
    rw [map_fst_setEntry]
    exact nodup_addNew key h.nodup
  key e he := by
    obtain rfl | he := mem_setEntry he
    · exact hk
    · exact h.key e he
  digest e he := by
    obtain rfl | he := mem_setEntry he
    · exact isWhole_of_readable (isReadable_digest content)
    · exact h.digest e he

/-- The entries of a manifest as fields, in the order of their keys. -/
def fields (m : Manifest) : List (String × Value) :=
  m.sorted.map fun e => (e.1, .str e.2)

/-- What a manifest is kept as. -/
def document (m : Manifest) : Value :=
  .record [("version", .int 1), ("files", .record m.fields)]

lemma text_eq (m : Manifest) : m.text = write Style.block m.document ++ "\n" := rfl

lemma map_fst_fields (m : Manifest) : m.fields.map Prod.fst = m.sorted.map Prod.fst := by
  simp [fields, Function.comp_def]

lemma readsAs_document (h : m.IsWhole) :
    ReadsAs (write Style.block m.document).toList m.document := by
  have whole := isWhole_sorted h
  have files : ReadsAs (writeAt Style.block 1 (.record m.fields)).toList (.record m.fields) := by
    refine readsAs_record (map_fst_fields m ▸ whole.nodup) fun f hf => ?_
    obtain ⟨e, he, rfl⟩ := List.mem_map.1 hf
    refine ⟨whole.key e he, ?_⟩
    rw [writeAt]
    exact readsAs_text (whole.digest e he)
  have version : ReadsAs (writeAt Style.block 1 (.int 1)).toList (.int 1) := by
    have short : Number.isLong (1 : Nat) = false := isLong_eq_false.2 (by decide)
    rw [writeAt]
    exact readsAs_nat short
  refine readsAs_record (by simp) (List.forall_mem_cons.2 ⟨⟨?_, version⟩,
    List.forall_mem_cons.2 ⟨⟨?_, files⟩, by simp⟩⟩)
  all_goals exact isWhole_of_readable (isReadable_of_plain (isPlain_of_all (by dsimp only; decide)))

/-- The text of a manifest is plain. -/
lemma isPlain_text (h : m.IsWhole) : ∀ c ∈ m.text.toList, IsPlain c := by
  rw [text_eq, String.toList_append]
  exact List.forall_mem_append.2 ⟨(readsAs_document h).plain, isPlain_of_all (by decide)⟩

lemma encode_text (h : m.IsWhole) : encode m.text = .ok m.text.toUTF8 :=
  encode_of_notMem fun mark => (isPlain_text h _ mark).ne_halfMark rfl

lemma decode_text (h : m.IsWhole) : decode m.text.toUTF8 = .ok m.text :=
  decode_toUTF8_of_notMem fun mark => (isPlain_text h _ mark).ne_halfMark rfl

lemma universalNewlines_text (h : m.IsWhole) :
    String.ofList (universalNewlines m.text.toList) = m.text := by
  rw [universalNewlines_of_notMem fun mark => (isPlain_text h _ mark).ne_return rfl,
    String.ofList_toList]

lemma ofDocument_document (m : Manifest) : ofDocument m.document = m.sorted := by
  simp [ofDocument, document, fields, Value.record, Value.get?, Value.opened, Value.lookup?,
    Value.sameKey, Value.shown, Function.comp_def]

/-- A manifest is read back in the order of its keys. -/
lemma read_text (h : m.IsWhole) : Manifest.read m.text = .ok m.sorted := by
  rw [Manifest.read, text_eq, (readsAs_document h).read]
  exact congrArg _ (ofDocument_document m)

/-! ### Manifests of others -/

lemma isWhole_ofDocument {v : Value} (h : IsRead v) : (ofDocument v).IsWhole := by
  unfold ofDocument
  split
  · next entries found =>
    have files := h.get? found
    generalize form : Value.map entries = files' at files
    cases files with
    | @record fields nodup keys values =>
      obtain rfl := Value.map.inj form
      rw [List.map_map]
      refine ⟨?_, fun e he => ?_, fun e he => ?_⟩
      · rw [List.map_map]
        exact nodup
      · obtain ⟨f, hf, rfl⟩ := List.mem_map.1 he
        exact keys f hf
      · obtain ⟨f, hf, rfl⟩ := List.mem_map.1 he
        exact (values f hf).isWhole_shown
    | _ => cases form
  · exact isSound_nil.isWhole

/-- A manifest is read back whatever text it was read from. -/
lemma isWhole_of_read {text : String} (h : Manifest.read text = .ok m)
    (whole : HasNoHalf text.toList) : m.IsWhole := by
  unfold Manifest.read at h
  cases value : Json.read text with
  | error e =>
    rw [value] at h
    cases h
  | ok v =>
    rw [value] at h
    obtain rfl := Except.ok.inj h
    exact isWhole_ofDocument (isRead_of_read value whole)

end Manifest

end ClientGen.Output
