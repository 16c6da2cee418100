import Mathlib.Algebra.Ring.Nat
import NxTutors.Knowledge.Index

/-!
# What survives in the index

The index is meant to describe the documents that have not been superseded. What each call keeps of
that is the same in every run: checksums, lengths and owners are right after every call. Only two
things can go wrong. A document may come with content that is stored already, under a chunk that is
more sensitive than it is; and a chunk that is dropped leaves its terms counted, and may have stood
for another document. So the index describes the surviving documents throughout a run exactly if no
call of the run does either (`describes_iff`). A search finds no other documents (`search_run`).
-/

namespace NxTutors.Knowledge

open Text Store

variable (p : Platform)

/-! ## Names of chunks -/

/-- Chunks are told apart by their names: the text is read from the right. -/
theorem chunkOf_inj {d d' : SourceDocument} {n n' : Nat} {content content' : String}
    (h : (chunkOf p d n content).chunkId = (chunkOf p d' n' content').chunkId) :
    (d.documentId = d'.documentId ∧ d.documentVersion = d'.documentVersion) ∧ n = n' := by
  have hchars := congrArg String.toList h
  simp only [chunkOf, String.toList_append, List.append_assoc] at hchars
  have hcolon : ":".toList = [':'] := by decide
  have hversion : ":v".toList = [':', 'v'] := by decide
  rw [hcolon, hversion] at hchars
  have hlast : (d.documentId.toList ++ ':' :: 'v' :: (toString d.documentVersion).toList) ++
        ':' :: (toString n).toList =
      (d'.documentId.toList ++ ':' :: 'v' :: (toString d'.documentVersion).toList) ++
        ':' :: (toString n').toList := by
    simpa using hchars
  obtain ⟨hfront, hnumber⟩ := append_cons_inj_last (notMem_toString n (by decide))
    (notMem_toString n' (by decide)) hlast
  have hnot (v : Int) : ':' ∉ 'v' :: (toString v).toList := by
    rw [List.mem_cons, not_or]
    exact ⟨by decide, notMem_toString_int v (by decide) (by decide)⟩
  obtain ⟨hid, hv⟩ := append_cons_inj_last (hnot _) (hnot _) hfront
  exact ⟨⟨String.toList_inj.mp hid,
    toString_int_injective (String.toList_inj.mp (List.cons.inj hv).2)⟩,
    toString_inj (String.toList_inj.mp hnumber)⟩

/-! ## Chunks of a document -/

section Chunks

variable {p} {d : SourceDocument} {target overlap : Nat}

/-- Chunks are numbered from zero on. -/
def Numbered (d : SourceDocument) (chunks : List Chunk) : Prop :=
  ∀ n (hn : n < chunks.length), ∃ content, chunks[n] = chunkOf p d n content

theorem numbered_flushBuffer {s : Buffering} (h : Numbered (p := p) d s.chunks) :
    Numbered (p := p) d (flushBuffer p d overlap s).chunks := by
  unfold flushBuffer
  split
  · exact h
  · intro n hn
    rw [List.length_append, List.length_singleton] at hn
    rcases Nat.lt_succ_iff_lt_or_eq.mp hn with hlt | rfl
    · rw [List.getElem_append_left hlt]
      exact h n hlt
    · exact ⟨_, List.getElem_concat_length rfl _⟩

theorem numbered_addParagraph {s : Buffering} {paragraph : String}
    (h : Numbered (p := p) d s.chunks) :
    Numbered (p := p) d (addParagraph p d target overlap s paragraph).chunks := by
  unfold addParagraph
  dsimp only
  split
  · exact numbered_flushBuffer h
  · exact h

/-- By the paragraphs. -/
theorem numbered_chunkDocument : Numbered (p := p) d (chunkDocument p d target overlap) := by
  have hloop : ∀ (ps : List String) (s : Buffering), Numbered (p := p) d s.chunks →
      Numbered (p := p) d (ps.foldl (addParagraph p d target overlap) s).chunks := by
    intro ps
    induction ps with
    | nil => exact fun s h => h
    | cons paragraph ps ih => exact fun s h => ih _ (numbered_addParagraph h)
  unfold chunkDocument
  split
  · intro n hn
    cases hn
  · refine numbered_flushBuffer (hloop _ _ fun n hn => ?_)
    cases hn

end Chunks

/-- The chunks of a document as they are looked for in the index. -/
def prepared (d : SourceDocument) : List Chunk := (chunkDocument p d 220 40).map (redactChunk p)

section Prepared

variable {p} {d d' : SourceDocument} {c c' : Chunk}

theorem redactChunk_chunkId (c : Chunk) : (redactChunk p c).chunkId = c.chunkId := by
  unfold redactChunk
  split <;> rfl

/-- What a prepared chunk has of its document. -/
theorem of_mem_prepared (h : c ∈ prepared p d) :
    c.documentId = d.documentId ∧ c.documentVersion = d.documentVersion ∧
      c.sensitivity = d.sensitivity ∧ c.checksum = checksumOf p c.content ∧
      ∃ n content, c.chunkId = (chunkOf p d n content).chunkId := by
  obtain ⟨original, hmem, rfl⟩ := List.mem_map.mp h
  obtain ⟨n, hn, rfl⟩ := List.getElem_of_mem hmem
  obtain ⟨content, hcontent⟩ := numbered_chunkDocument n hn
  rw [hcontent]
  refine ⟨?_, ?_, ?_, ?_, n, content, redactChunk_chunkId _⟩ <;>
  · unfold redactChunk
    split <;> rfl

/-- Chunks of different documents or versions have different names. -/
theorem chunkId_ne (hc : c ∈ prepared p d) (hc' : c' ∈ prepared p d')
    (hne : (d.documentId, d.documentVersion) ≠ (d'.documentId, d'.documentVersion)) :
    c.chunkId ≠ c'.chunkId := by
  obtain ⟨-, -, -, -, n, content, hid⟩ := of_mem_prepared hc
  obtain ⟨-, -, -, -, n', content', hid'⟩ := of_mem_prepared hc'
  intro h
  rw [hid, hid'] at h
  obtain ⟨⟨hdoc, hversion⟩, -⟩ := chunkOf_inj p h
  exact hne (by rw [hdoc, hversion])

/-- And so have the chunks of one document. -/
theorem nodup_prepared : ((prepared p d).map Chunk.chunkId).Nodup := by
  have hnames : (chunkDocument p d 220 40).map (Chunk.chunkId ∘ redactChunk p) =
      (chunkDocument p d 220 40).map Chunk.chunkId :=
    List.map_congr_left fun c _ => redactChunk_chunkId c
  rw [prepared, List.map_map, hnames, List.nodup_iff_injective_getElem]
  intro ⟨i, hi⟩ ⟨j, hj⟩ h
  rw [List.length_map] at hi hj
  obtain ⟨content, hcontent⟩ := numbered_chunkDocument i hi
  obtain ⟨content', hcontent'⟩ := numbered_chunkDocument j hj
  simp only [List.getElem_map, hcontent, hcontent'] at h
  exact Fin.ext (chunkOf_inj p h).2

end Prepared

/-! ## Indexes of what is stored -/

section Stored

/-- **The tables beside the chunks describe them**, but for the counts of the terms. -/
structure Kept (index : RagIndex) : Prop where
  byChecksum : ∀ sum id, (sum, id) ∈ index.byChecksum.rows ↔
    ∃ c ∈ index.chunks.rows, c.checksum = sum ∧ c.chunkId = id
  lengths : ∀ id n, (id, n) ∈ index.lengths.rows ↔
    ∃ c ∈ index.chunks.rows, c.chunkId = id ∧ (tokens p c.content).length = n

/-- A term is counted as often as there are chunks that contain it. -/
def Counted (index : RagIndex) : Prop :=
  ∀ term, index.docFreq term = index.chunks.rows.countP fun c => term ∈ tokens p c.content

variable {p} {index : RagIndex} {c c' : Chunk}

/-- No two chunks have one checksum. -/
theorem Kept.eq_of_checksum (h : Kept p index) (hc : c ∈ index.chunks.rows)
    (hc' : c' ∈ index.chunks.rows) (hsum : c.checksum = c'.checksum) : c = c' := by
  have hrow := (h.byChecksum c.checksum c.chunkId).mpr ⟨c, hc, rfl, rfl⟩
  have hrow' := (h.byChecksum c.checksum c'.chunkId).mpr ⟨c', hc', hsum.symm, rfl⟩
  have hid := index.byChecksum.eq_of_key hrow hrow' rfl
  exact index.chunks.eq_of_key hc hc' (Prod.mk.inj hid).2

/-- A checksum is found if a chunk has it. -/
theorem Kept.find_isSome (h : Kept p index) {sum : String} :
    (index.byChecksum.find sum).isSome = true ↔ ∃ c ∈ index.chunks.rows, c.checksum = sum := by
  rw [Option.isSome_iff_exists]
  constructor
  · rintro ⟨⟨sum', id⟩, hfind⟩
    obtain ⟨hrow, rfl⟩ := Table.find_eq_some_iff.mp hfind
    obtain ⟨c, hc, hsum, -⟩ := (h.byChecksum _ _).mp hrow
    exact ⟨c, hc, hsum⟩
  · rintro ⟨c, hc, rfl⟩
    exact ⟨_, Table.find_eq_some_iff.mpr ⟨(h.byChecksum _ _).mpr ⟨c, hc, rfl, rfl⟩, rfl⟩⟩

/-- A chunk with a new name goes behind the others. -/
theorem rows_store (hid : ∀ c' ∈ index.chunks.rows, c'.chunkId ≠ c.chunkId) :
    (index.store p c).chunks.rows = index.chunks.rows ++ [c] := Table.rows_put_of_new hid

/-- Storing a new chunk keeps the tables. -/
theorem Kept.store (h : Kept p index) (hid : ∀ c' ∈ index.chunks.rows, c'.chunkId ≠ c.chunkId)
    (hsum : ∀ c' ∈ index.chunks.rows, c'.checksum ≠ c.checksum) : Kept p (index.store p c) where
  byChecksum sum id := by
    have hother : (sum, id) ∈ index.byChecksum.rows → sum ≠ c.checksum := by
      intro hrow
      obtain ⟨c', hc', rfl, -⟩ := (h.byChecksum _ _).mp hrow
      exact hsum c' hc'
    rw [rows_store hid]
    show (sum, id) ∈ (index.byChecksum.put (c.checksum, c.chunkId)).rows ↔ _
    rw [Table.mem_put, Prod.mk.injEq]
    simp only [List.mem_append, List.mem_singleton, or_and_right, exists_or, exists_eq_left]
    rw [or_comm, ← h.byChecksum]
    constructor
    · rintro (⟨hrow, -⟩ | ⟨rfl, rfl⟩)
      · exact .inl hrow
      · exact .inr ⟨rfl, rfl⟩
    · rintro (hrow | ⟨rfl, rfl⟩)
      · exact .inl ⟨hrow, hother hrow⟩
      · exact .inr ⟨rfl, rfl⟩
  lengths id n := by
    have hother : (id, n) ∈ index.lengths.rows → id ≠ c.chunkId := by
      intro hrow
      obtain ⟨c', hc', rfl, -⟩ := (h.lengths _ _).mp hrow
      exact hid c' hc'
    rw [rows_store hid]
    show (id, n) ∈ (index.lengths.put (c.chunkId, (tokens p c.content).length)).rows ↔ _
    rw [Table.mem_put, Prod.mk.injEq]
    simp only [List.mem_append, List.mem_singleton, or_and_right, exists_or, exists_eq_left]
    rw [or_comm, ← h.lengths]
    constructor
    · rintro (⟨hrow, -⟩ | ⟨rfl, rfl⟩)
      · exact .inl hrow
      · exact .inr ⟨rfl, rfl⟩
    · rintro (hrow | ⟨rfl, rfl⟩)
      · exact .inl ⟨hrow, hother hrow⟩
      · exact .inr ⟨rfl, rfl⟩

theorem Counted.store (h : Counted p index)
    (hid : ∀ c' ∈ index.chunks.rows, c'.chunkId ≠ c.chunkId) : Counted p (index.store p c) := by
  intro term
  rw [rows_store hid, List.countP_append, ← h term, List.countP_singleton]
  show index.docFreq term + _ = _
  simp only [decide_eq_true_eq]

/-- Dropping a chunk keeps the tables as well. -/
theorem Kept.drop (h : Kept p index) (id : String) : Kept p (index.drop id) := by
  unfold RagIndex.drop
  cases hfind : index.chunks.find id with
  | none => exact h
  | some c =>
    obtain ⟨hc, rfl⟩ := Table.find_eq_some_iff.mp hfind
    -- another checksum is another chunk, and so is another name
    have hother (c' : Chunk) (hc' : c' ∈ index.chunks.rows) :
        c'.checksum ≠ c.checksum ↔ c'.chunkId ≠ c.chunkId := by
      rw [not_iff_not]
      constructor
      · intro hsum
        rw [h.eq_of_checksum hc' hc hsum]
      · intro hid
        rw [index.chunks.eq_of_key hc' hc hid]
    refine ⟨fun sum id => ?_, fun id n => ?_⟩
    · simp only [Table.mem_erase, h.byChecksum]
      constructor
      · rintro ⟨⟨c', hc', rfl, rfl⟩, hne⟩
        exact ⟨c', ⟨hc', (hother c' hc').mp hne⟩, rfl, rfl⟩
      · rintro ⟨c', ⟨hc', hne⟩, rfl, rfl⟩
        exact ⟨⟨c', hc', rfl, rfl⟩, (hother c' hc').mpr hne⟩
    · simp only [Table.mem_erase, h.lengths]
      constructor
      · rintro ⟨⟨c', hc', rfl, rfl⟩, hne⟩
        exact ⟨c', ⟨hc', hne⟩, rfl, rfl⟩
      · rintro ⟨c', ⟨hc', hne⟩, rfl, rfl⟩
        exact ⟨⟨c', hc', rfl, rfl⟩, hne⟩

theorem rows_drop (id : String) :
    (index.drop id).chunks.rows = index.chunks.rows.filter fun c => c.chunkId ≠ id := by
  unfold RagIndex.drop
  cases hfind : index.chunks.find id with
  | none =>
    refine (List.filter_eq_self.mpr fun c hc => ?_).symm
    exact decide_eq_true (Table.find_eq_none_iff.mp hfind c hc)
  | some c => rfl

theorem docFreq_drop (id : String) : (index.drop id).docFreq = index.docFreq := by
  unfold RagIndex.drop
  split <;> rfl

end Stored

/-! ## Whole calls -/

section Calls

variable {p} {index : RagIndex} {report : IngestionReport}

theorem ingestChunk_fst (original : Chunk) : (ingestChunk p (index, report) original).1 =
    if (index.byChecksum.find (redactChunk p original).checksum).isSome then index
    else index.store p (redactChunk p original) := by
  unfold ingestChunk
  dsimp only
  split <;> rfl

/-- **The loop over the chunks**, by the chunks: the index is as right as before, what is new is one
of them, and for each of them there is a chunk with its checksum. -/
theorem foldl_ingestChunk : ∀ (originals : List Chunk) (index : RagIndex)
    (report : IngestionReport), Kept p index → Counted p index →
    (∀ c ∈ originals.map (redactChunk p), ∀ c' ∈ index.chunks.rows, c'.chunkId ≠ c.chunkId) →
    ((originals.map (redactChunk p)).map Chunk.chunkId).Nodup →
    let result := (originals.foldl (ingestChunk p) (index, report)).1
    Kept p result ∧ Counted p result ∧ (∃ added, result.chunks.rows = index.chunks.rows ++ added ∧
        ∀ c ∈ added, c ∈ originals.map (redactChunk p)) ∧
      ∀ c ∈ originals.map (redactChunk p), ∃ c' ∈ result.chunks.rows, c'.checksum = c.checksum := by
  intro originals
  induction originals with
  | nil =>
    intro index report hkept hcounted _ _
    exact ⟨hkept, hcounted, ⟨[], (List.append_nil _).symm, fun c hc => hc⟩, fun c hc => by cases hc⟩
  | cons original originals ih =>
    intro index report hkept hcounted hnew hnodup
    simp only [List.map_cons, List.forall_mem_cons, List.nodup_cons] at hnew hnodup
    obtain ⟨next, hnext⟩ : ∃ next, next = ingestChunk p (index, report) original := ⟨_, rfl⟩
    have hindex : (ingestChunk p (index, report) original).1 = _ := ingestChunk_fst original
    rw [← hnext] at hindex
    rw [List.foldl_cons, ← hnext]
    by_cases hfound : (index.byChecksum.find (redactChunk p original).checksum).isSome = true
    · -- it is stored already, and the index stays
      rw [if_pos hfound] at hindex
      obtain ⟨hkept', hcounted', ⟨added, hrows, hadded⟩, hall⟩ :=
        ih next.1 next.2 (hindex ▸ hkept) (hindex ▸ hcounted) (hindex ▸ hnew.2) hnodup.2
      refine ⟨hkept', hcounted', ⟨added, hindex ▸ hrows, fun c hc =>
        List.mem_cons_of_mem _ (hadded c hc)⟩, List.forall_mem_cons.mpr ⟨?_, hall⟩⟩
      obtain ⟨c', hc', hsum⟩ := hkept.find_isSome.mp hfound
      exact ⟨c', by rw [hrows, hindex]; exact List.mem_append_left _ hc', hsum⟩
    · rw [if_neg hfound] at hindex
      have hsum : ∀ c' ∈ index.chunks.rows, c'.checksum ≠ (redactChunk p original).checksum :=
        fun c' hc' hsum => hfound (hkept.find_isSome.mpr ⟨c', hc', hsum⟩)
      have hrows' := rows_store (p := p) hnew.1
      have hnew' : ∀ c ∈ originals.map (redactChunk p), ∀ c' ∈ next.1.chunks.rows,
          c'.chunkId ≠ c.chunkId := by
        intro c hc c' hc'
        rw [hindex, hrows'] at hc'
        rcases List.mem_append.mp hc' with hold | hlast
        · exact hnew.2 c hc c' hold
        · rw [List.mem_singleton.mp hlast]
          exact fun hid => hnodup.1 (hid ▸ List.mem_map_of_mem hc)
      obtain ⟨hkept', hcounted', ⟨added, hrows, hadded⟩, hall⟩ := ih next.1 next.2
        (hindex ▸ hkept.store hnew.1 hsum) (hindex ▸ hcounted.store hnew.1) hnew' hnodup.2
      have hfirst : next.1.chunks.rows = index.chunks.rows ++ [redactChunk p original] := by
        rw [hindex, hrows']
      rw [hfirst, List.append_assoc, List.singleton_append] at hrows
      refine ⟨hkept', hcounted', ⟨_, hrows, ?_⟩, List.forall_mem_cons.mpr ⟨?_, hall⟩⟩
      · exact List.forall_mem_cons.mpr ⟨List.mem_cons_self, fun c hc =>
          List.mem_cons_of_mem _ (hadded c hc)⟩
      · exact ⟨_, by rw [hrows]; exact List.mem_append_right _ List.mem_cons_self, rfl⟩

/-- A document that is refused changes nothing. -/
theorem ingest_of_refused {d : SourceDocument} (h : (validate p d).isSome = true) :
    (index.ingest p d).1 = index := by
  obtain ⟨reason, hreason⟩ := Option.isSome_iff_exists.mp h
  rw [RagIndex.ingest, hreason]

/-- **What a call of `ingest` does**, with names that are new. -/
theorem ingest_spec {d : SourceDocument} (hvalid : validate p d = none) (hkept : Kept p index)
    (hcounted : Counted p index)
    (hnew : ∀ c ∈ prepared p d, ∀ c' ∈ index.chunks.rows, c'.chunkId ≠ c.chunkId) :
    Kept p (index.ingest p d).1 ∧ Counted p (index.ingest p d).1 ∧
      (∃ added, (index.ingest p d).1.chunks.rows = index.chunks.rows ++ added ∧
        ∀ c ∈ added, c ∈ prepared p d) ∧
      ∀ c ∈ prepared p d, ∃ c' ∈ (index.ingest p d).1.chunks.rows, c'.checksum = c.checksum := by
  have hindex : (index.ingest p d).1 =
      ((chunkDocument p d 220 40).foldl (ingestChunk p) (index, {})).1 := by
    rw [RagIndex.ingest, hvalid]
  rw [hindex]
  exact foldl_ingestChunk _ index {} hkept hcounted hnew nodup_prepared

/-- **The loop over the chunks that are doomed**, by their names. -/
theorem rows_foldl_drop (doomed : List String) (index : RagIndex) :
    (doomed.foldl RagIndex.drop index).chunks.rows =
      index.chunks.rows.filter fun c => c.chunkId ∉ doomed := by
  induction doomed generalizing index with
  | nil => exact (List.filter_eq_self.mpr fun c _ => by simp).symm
  | cons id doomed ih =>
    rw [List.foldl_cons, ih, rows_drop, List.filter_filter]
    refine List.filter_congr fun c _ => ?_
    simp [List.mem_cons, not_or, Bool.and_comm]

theorem foldl_drop : ∀ (doomed : List String) (index : RagIndex), Kept p index →
    Kept p (doomed.foldl RagIndex.drop index) ∧
      (doomed.foldl RagIndex.drop index).docFreq = index.docFreq := by
  intro doomed
  induction doomed with
  | nil => exact fun index hkept => ⟨hkept, rfl⟩
  | cons id doomed ih =>
    intro index hkept
    obtain ⟨hkept', hfreq⟩ := ih (index.drop id) (hkept.drop id)
    exact ⟨hkept', hfreq.trans (docFreq_drop id)⟩

/-- A chunk of another version of a document. -/
def Outdated (documentId : String) (keepVersion : Int) (c : Chunk) : Prop :=
  c.documentId = documentId ∧ c.documentVersion ≠ keepVersion

instance (documentId : String) (keepVersion : Int) (c : Chunk) :
    Decidable (Outdated documentId keepVersion c) := inferInstanceAs (Decidable (_ ∧ _))

/-- **What a call of `supersede` does.** -/
theorem supersede_spec (hkept : Kept p index) (documentId : String) (keepVersion : Int) :
    Kept p (index.supersede documentId keepVersion).1 ∧
      (index.supersede documentId keepVersion).1.docFreq = index.docFreq ∧
      (index.supersede documentId keepVersion).1.chunks.rows =
        index.chunks.rows.filter fun c => ¬Outdated documentId keepVersion c := by
  obtain ⟨hkept', hfreq⟩ := foldl_drop
    ((index.chunks.rows.filter fun c => Outdated documentId keepVersion c).map Chunk.chunkId)
    index hkept
  refine ⟨hkept', hfreq, (rows_foldl_drop _ _).trans (List.filter_congr fun c hc => ?_)⟩
  rw [decide_eq_decide, not_iff_not, List.mem_map]
  constructor
  · rintro ⟨c', hc', hid⟩
    obtain ⟨hmem, hout⟩ := List.mem_filter.mp hc'
    rw [← index.chunks.eq_of_key hmem hc hid]
    exact of_decide_eq_true hout
  · exact fun hout => ⟨c, List.mem_filter.mpr ⟨hc, decide_eq_true hout⟩, rfl⟩

end Calls

/-! ## Runs -/

/-- A call of the index. -/
inductive Call
  | ingest (document : SourceDocument)
  | supersede (documentId : String) (keepVersion : Int)

/-- The index, with the versions of documents that have not been superseded. -/
structure World where
  index : RagIndex
  surviving : List SourceDocument

/-- A version of a document stays unless another version of it is kept. -/
def stays (documentId : String) (keepVersion : Int) (d : SourceDocument) : Bool :=
  ¬(d.documentId = documentId ∧ d.documentVersion ≠ keepVersion)

/-- One call. A document that is refused is none of those that survive. -/
def World.step (w : World) : Call → World
  | .ingest document =>
    { index := (w.index.ingest p document).1
      surviving := if (validate p document).isSome then w.surviving else w.surviving ++ [document] }
  | .supersede documentId keepVersion =>
    { index := (w.index.supersede documentId keepVersion).1
      surviving := w.surviving.filter (stays documentId keepVersion) }

/-- What calls lead to, from an empty index. -/
def run (calls : List Call) : World := calls.foldl (World.step p) ⟨.empty, []⟩

/-- The documents and versions that are ingested. -/
def versions (calls : List Call) : List (String × Int) :=
  calls.filterMap fun call => match call with
    | .ingest d => some (d.documentId, d.documentVersion)
    | .supersede _ _ => none

/-- **The index describes the documents that survive.** -/
structure Describes (w : World) : Prop where
  content : ∀ d ∈ w.surviving, ∀ c ∈ prepared p d, ∃ c' ∈ w.index.chunks.rows,
    c'.content = c.content ∧ c'.sensitivity.level ≤ d.sensitivity.level
  owner : ∀ c ∈ w.index.chunks.rows, ∃ d ∈ w.surviving, c ∈ prepared p d
  counted : Counted p w.index
  kept : Kept p w.index

/-- **A call does no harm.** What a document comes with is not stored already under a chunk that is
more sensitive, and has no checksum in common with other content. What is superseded has no terms,
and is the content of no document that stays. -/
def Harmless (w : World) : Call → Prop
  | .ingest d => validate p d = none → ∀ c ∈ prepared p d,
      (∀ c' ∈ w.index.chunks.rows, c'.checksum = c.checksum →
        c'.content = c.content ∧ c'.sensitivity.level ≤ d.sensitivity.level) ∧
      ∀ c' ∈ prepared p d, c'.checksum = c.checksum → c'.content = c.content
  | .supersede documentId keepVersion => ∀ c ∈ w.index.chunks.rows,
      Outdated documentId keepVersion c → tokens p c.content = [] ∧
        ∀ d ∈ w.surviving, stays documentId keepVersion d = true →
          ∀ c' ∈ prepared p d, c'.content ≠ c.content

section Results

variable {p} {w : World}

/-- Stored chunks have the checksum of their content. -/
theorem Describes.checksum (h : Describes p w) {c : Chunk} (hc : c ∈ w.index.chunks.rows) :
    c.checksum = checksumOf p c.content := by
  obtain ⟨d, -, hprepared⟩ := h.owner c hc
  exact (of_mem_prepared hprepared).2.2.2.1

/-- **One document more**, of a new version. -/
theorem describes_ingest {d : SourceDocument} (h : Describes p w) (hnew : ∀ d' ∈ w.surviving,
      (d'.documentId, d'.documentVersion) ≠ (d.documentId, d.documentVersion)) :
    Describes p (w.step p (.ingest d)) ↔ Harmless p w (.ingest d) := by
  unfold World.step Harmless
  dsimp only
  cases hvalid : validate p d with
  | some reason =>
    have hrefused : (validate p d).isSome = true := by rw [hvalid]; rfl
    rw [ingest_of_refused hrefused, Option.isSome_some, if_pos rfl]
    exact iff_of_true h fun hnone => by cases hnone
  | none =>
    have hnames : ∀ c ∈ prepared p d, ∀ c' ∈ w.index.chunks.rows, c'.chunkId ≠ c.chunkId := by
      intro c hc c' hc'
      obtain ⟨d', hd', howner⟩ := h.owner c' hc'
      exact chunkId_ne howner hc (hnew d' hd')
    obtain ⟨hkept, hcounted, ⟨added, hrows, hadded⟩, hall⟩ :=
      ingest_spec hvalid h.kept h.counted hnames
    have hold {c : Chunk} (hc : c ∈ w.index.chunks.rows) :
        c ∈ (w.index.ingest p d).1.chunks.rows := by
      rw [hrows]
      exact List.mem_append_left _ hc
    have howner : ∀ c ∈ (w.index.ingest p d).1.chunks.rows,
        ∃ d' ∈ w.surviving ++ [d], c ∈ prepared p d' := by
      intro c hc
      rw [hrows] at hc
      rcases List.mem_append.mp hc with hc | hc
      · obtain ⟨d', hd', hprepared⟩ := h.owner c hc
        exact ⟨d', List.mem_append_left _ hd', hprepared⟩
      · exact ⟨d, List.mem_append_right _ List.mem_cons_self, hadded c hc⟩
    have hsum {c c' : Chunk} (hc : c ∈ prepared p d)
        (hc' : c' ∈ (w.index.ingest p d).1.chunks.rows) (hcontent : c'.content = c.content) :
        c'.checksum = c.checksum := by
      obtain ⟨d', -, hprepared⟩ := howner c' hc'
      rw [(of_mem_prepared hprepared).2.2.2.1, hcontent, (of_mem_prepared hc).2.2.2.1]
    constructor
    · intro hafter _ c hc
      have hstored (c : Chunk) (hc : c ∈ prepared p d) := hafter.content d
        (List.mem_append_right _ List.mem_cons_self) c hc
      obtain ⟨c₁, hc₁, hcontent, hlevel⟩ := hstored c hc
      constructor
      · intro c' hc' hsame
        have heq := hkept.eq_of_checksum (hold hc') hc₁ (hsame.trans (hsum hc hc₁ hcontent).symm)
        rw [heq]
        exact ⟨hcontent, hlevel⟩
      · intro c' hc' hsame
        obtain ⟨c₂, hc₂, hcontent', -⟩ := hstored c' hc'
        have heq := hkept.eq_of_checksum hc₂ hc₁
          ((hsum hc' hc₂ hcontent').trans (hsame.trans (hsum hc hc₁ hcontent).symm))
        rw [← hcontent', heq, hcontent]
    · intro hharmless
      refine ⟨fun d' hd' c hc => ?_, howner, hcounted, hkept⟩
      rcases List.mem_append.mp hd' with hd' | hd'
      · obtain ⟨c', hc', hstored⟩ := h.content d' hd' c hc
        exact ⟨c', hold hc', hstored⟩
      · rw [List.mem_singleton.mp hd'] at hc ⊢
        obtain ⟨c', hc', hsame⟩ := hall c hc
        refine ⟨c', hc', ?_⟩
        have hmem := hc'
        rw [hrows] at hmem
        rcases List.mem_append.mp hmem with hbefore | hadd
        · exact (hharmless rfl c hc).1 c' hbefore hsame
        · refine ⟨(hharmless rfl c hc).2 c' (hadded c' hadd) hsame, ?_⟩
          rw [(of_mem_prepared (hadded c' hadd)).2.2.1]

/-- **Other versions of a document taken out.** -/
theorem describes_supersede {documentId : String} {keepVersion : Int} (h : Describes p w) :
    Describes p (w.step p (.supersede documentId keepVersion)) ↔
      Harmless p w (.supersede documentId keepVersion) := by
  obtain ⟨hkept, hfreq, hrows⟩ := supersede_spec h.kept documentId keepVersion
  have hmem {c : Chunk} : c ∈ (w.index.supersede documentId keepVersion).1.chunks.rows ↔
      c ∈ w.index.chunks.rows ∧ ¬Outdated documentId keepVersion c := by
    rw [hrows, List.mem_filter, decide_eq_true_eq]
  -- a chunk is of an outdated version if its document is
  have hstays {c : Chunk} {d : SourceDocument} (hc : c ∈ prepared p d) :
      stays documentId keepVersion d = true ↔ ¬Outdated documentId keepVersion c := by
    obtain ⟨hid, hversion, -⟩ := of_mem_prepared hc
    rw [stays, Outdated, hid, hversion, decide_eq_true_eq]
  have howner : ∀ c ∈ (w.index.supersede documentId keepVersion).1.chunks.rows,
      ∃ d ∈ w.surviving.filter (stays documentId keepVersion), c ∈ prepared p d := by
    intro c hc
    obtain ⟨hbefore, hnot⟩ := hmem.mp hc
    obtain ⟨d, hd, hprepared⟩ := h.owner c hbefore
    exact ⟨d, List.mem_filter.mpr ⟨hd, (hstays hprepared).mpr hnot⟩, hprepared⟩
  -- the counts are right if no term was in what has gone
  have hterms : Counted p (w.index.supersede documentId keepVersion).1 ↔
      ∀ c ∈ w.index.chunks.rows, Outdated documentId keepVersion c → tokens p c.content = [] := by
    have hgone (term : String) : (w.index.supersede documentId keepVersion).1.docFreq term =
        (w.index.supersede documentId keepVersion).1.chunks.rows.countP
          (fun c => term ∈ tokens p c.content) ↔
        ∀ c ∈ w.index.chunks.rows, Outdated documentId keepVersion c →
          term ∉ tokens p c.content := by
      rw [hfreq, hrows, h.counted term, List.countP_eq_countP_filter_add w.index.chunks.rows _
        (fun c => decide ¬Outdated documentId keepVersion c), Nat.add_eq_left,
        List.countP_eq_zero]
      simp only [List.mem_filter, decide_not, Bool.not_not, decide_eq_true_eq, and_imp]
    unfold Counted
    simp only [hgone, List.eq_nil_iff_forall_not_mem]
    exact ⟨fun hall c hc hout term => hall term c hc hout,
      fun hall term c hc hout => hall c hc hout term⟩
  constructor
  · intro hafter c hc hout
    refine ⟨hterms.mp hafter.counted c hc hout, fun d hd hd' c' hc' hcontent => ?_⟩
    obtain ⟨c₂, hc₂, hcontent₂, -⟩ := hafter.content d (List.mem_filter.mpr ⟨hd, hd'⟩) c' hc'
    obtain ⟨hbefore, hnot⟩ := hmem.mp hc₂
    have hsum : c₂.checksum = c.checksum := by
      rw [h.checksum hbefore, h.checksum hc, hcontent₂, hcontent]
    exact hnot (h.kept.eq_of_checksum hbefore hc hsum ▸ hout)
  · intro hharmless
    refine ⟨fun d hd c hc => ?_, howner, hterms.mpr fun c hc hout => (hharmless c hc hout).1, hkept⟩
    obtain ⟨hbefore, hd'⟩ := List.mem_filter.mp hd
    obtain ⟨c', hc', hcontent, hlevel⟩ := h.content d hbefore c hc
    refine ⟨c', hmem.mpr ⟨hc', fun hout => ?_⟩, hcontent, hlevel⟩
    exact (hharmless c' hc' hout).2 d hbefore hd' c hc hcontent.symm

theorem describes_empty : Describes p ⟨.empty, []⟩ where
  content d hd := by cases hd
  owner c hc := by cases hc
  counted _ := rfl
  kept := {
    byChecksum := fun sum id => by simp [RagIndex.empty]
    lengths := fun id n => by simp [RagIndex.empty] }

/-- What survives has been ingested. -/
theorem mem_versions (calls : List Call) : ∀ d ∈ (run p calls).surviving,
    (d.documentId, d.documentVersion) ∈ versions calls := by
  induction calls using List.reverseRecOn with
  | nil =>
    intro d hd
    cases hd
  | append_singleton calls call ih =>
    intro d hd
    rw [run, List.foldl_concat, ← run] at hd
    rw [versions, List.filterMap_append, List.mem_append]
    cases call with
    | ingest document =>
      unfold World.step at hd
      dsimp only at hd
      split at hd
      · exact .inl (ih d hd)
      · rcases List.mem_append.mp hd with hd | hd
        · exact .inl (ih d hd)
        · rw [List.mem_singleton.mp hd]
          exact .inr List.mem_cons_self
    | supersede documentId keepVersion => exact .inl (ih d (List.mem_filter.mp hd).1)

/-- **The index is a function of what survives**, throughout a run of calls that ingest no version
twice, exactly if each of the calls does no harm where it is made. -/
theorem describes_iff (p : Platform) (calls : List Call) (hdistinct : (versions calls).Nodup) :
    (∀ before, before <+: calls → Describes p (run p before)) ↔
      ∀ before call after, calls = before ++ call :: after → Harmless p (run p before) call := by
  have hstep {before : List Call} {call : Call} {after : List Call}
      (hcalls : calls = before ++ call :: after) (h : Describes p (run p before)) :
      Describes p (run p (before ++ [call])) ↔ Harmless p (run p before) call := by
    rw [run, List.foldl_concat, ← run]
    cases call with
    | supersede documentId keepVersion => exact describes_supersede h
    | ingest d =>
      refine describes_ingest h fun d' hd' hsame => ?_
      have hmem := mem_versions before d' hd'
      rw [hcalls, versions, List.filterMap_append, List.nodup_append] at hdistinct
      exact hdistinct.2.2 _ hmem _ List.mem_cons_self hsame
  constructor
  · intro hall before call after hcalls
    refine (hstep hcalls (hall before ⟨_, hcalls.symm⟩)).mp (hall _ ⟨after, ?_⟩)
    rw [hcalls, List.append_assoc, List.singleton_append]
  · intro hall before hbefore
    induction before using List.reverseRecOn with
    | nil => exact describes_empty
    | append_singleton before call ih =>
      obtain ⟨after, hafter⟩ := hbefore
      have hcalls : calls = before ++ call :: after := by
        rw [← hafter, List.append_assoc, List.singleton_append]
      exact (hstep hcalls (ih ⟨_, hcalls.symm⟩)).mpr (hall before call after hcalls)

end Results

/-! ## Searches -/

section Searches

variable {p} {w : World}

/-- What is stored is of a document that survives. -/
def Owned (w : World) : Prop := ∀ c ∈ w.index.chunks.rows, ∃ d ∈ w.surviving, c ∈ prepared p d

/-- Every call keeps it, also one that ingests a version again. -/
theorem Owned.step (h : Owned (p := p) w) (call : Call) : Owned (p := p) (w.step p call) := by
  cases call with
  | ingest d =>
    unfold Owned World.step RagIndex.ingest
    dsimp only
    cases validate p d with
    | some reason => exact h
    | none =>
      refine List.foldlRecOn (motive := fun s : RagIndex × IngestionReport => ∀ c ∈ s.1.chunks.rows,
        ∃ d' ∈ w.surviving ++ [d], c ∈ prepared p d') _ _ (fun c hc => ?_)
        fun s hs original ho c hc => ?_
      · obtain ⟨d', hd', howner⟩ := h c hc
        exact ⟨d', List.mem_append_left _ hd', howner⟩
      · rw [ingestChunk_fst] at hc
        split at hc
        · exact hs c hc
        · rcases Table.mem_put.mp hc with rfl | ⟨hc, -⟩
          · exact ⟨d, List.mem_append_right _ List.mem_cons_self, List.mem_map_of_mem ho⟩
          · exact hs c hc
  | supersede documentId keepVersion =>
    intro c hc
    simp only [World.step, RagIndex.supersede, rows_foldl_drop, List.mem_filter,
      decide_eq_true_eq] at hc
    obtain ⟨hmem, hnot⟩ := hc
    obtain ⟨d, hd, howner⟩ := h c hmem
    refine ⟨d, List.mem_filter.mpr ⟨hd, decide_eq_true fun hout => hnot ?_⟩, howner⟩
    obtain ⟨hid, hversion, -⟩ := of_mem_prepared howner
    rw [← hid, ← hversion] at hout
    exact List.mem_map_of_mem (List.mem_filter.mpr ⟨hmem, decide_eq_true hout⟩)

theorem owned_run (calls : List Call) : Owned (p := p) (run p calls) :=
  List.foldlRecOn calls _ (fun c hc => by cases hc) fun _ h call _ => h.step call

variable {F : Type} [LinearOrder F] [Zero F] {score : Chunk → F} {topK tokenBudget : Int}

def tokensOf (chunks : List Chunk) : Nat := (chunks.map Chunk.tokenCount).sum

/-- A chunk is left out for those before it: there are enough of them, or it does not fit. -/
def Crowded (score : Chunk → F) (topK tokenBudget : Int) (found : List Chunk) (c : Chunk) : Prop :=
  ∃ better, better <+: found ∧ (∀ b ∈ better, Ahead score b c) ∧
    (topK ≤ better.length ∨ tokenBudget < tokensOf better + c.tokenCount)

/-- **The loop is greedy.** What it selects is ranked as before, has a score, is not too much, and
crowds out all the others that have a score. -/
theorem spend_spec : ∀ (ranked : List Chunk) (selected spent : Nat), ranked.Pairwise (Ahead score) →
    let found := spend score topK tokenBudget selected spent ranked
    found.Sublist ranked ∧ (∀ c ∈ found, 0 < score c) ∧
      found.length ≤ (topK - selected).toNat ∧ tokensOf found ≤ (tokenBudget - spent).toNat ∧
      ∀ c ∈ ranked, 0 < score c → c ∉ found →
        Crowded score (topK - selected) (tokenBudget - spent) found c := by
  intro ranked
  induction ranked with
  | nil => simp [spend, tokensOf]
  | cons chunk more ih =>
    intro selected spent hsorted
    obtain ⟨hahead, hsorted⟩ := List.pairwise_cons.mp hsorted
    rw [spend]
    split_ifs with hstop hfull
    · refine ⟨List.nil_sublist _, by simp, by simp, by simp [tokensOf], fun c hc hpos _ =>
        ⟨[], List.nil_prefix, by simp, .inl ?_⟩⟩
      rcases hstop with hzero | henough
      · -- those behind a chunk without a score have none
        have hle : score c ≤ score chunk := by
          rcases List.mem_cons.mp hc with rfl | hc
          · exact le_rfl
          · exact OrderDual.toDual_le_toDual.mp (Prod.Lex.monotone_fst _ _ (hahead c hc))
        exact absurd (hpos.trans_le (hle.trans hzero)) (lt_irrefl _)
      · rw [List.length_nil]
        omega
    · obtain ⟨hsub, hpos, hlength, htokens, hcrowded⟩ := ih selected spent hsorted
      refine ⟨hsub.cons _, hpos, hlength, htokens, fun c hc hc' hnot => ?_⟩
      rcases List.mem_cons.mp hc with rfl | hc
      · exact ⟨[], List.nil_prefix, by simp, .inr (by simp [tokensOf]; omega)⟩
      · exact hcrowded c hc hc' hnot
    · rw [not_or, not_le, not_le] at hstop
      obtain ⟨hsub, hpos, hlength, htokens, hcrowded⟩ :=
        ih (selected + 1) (spent + chunk.tokenCount) hsorted
      have hsum (cs : List Chunk) : tokensOf (chunk :: cs) = chunk.tokenCount + tokensOf cs := rfl
      refine ⟨hsub.cons_cons _, List.forall_mem_cons.mpr ⟨hstop.1, hpos⟩, ?_, ?_,
        fun c hc hc' hnot => ?_⟩
      · rw [List.length_cons]
        omega
      · rw [hsum]
        omega
      · rw [List.mem_cons, not_or] at hnot
        have hmem := (List.mem_cons.mp hc).resolve_left hnot.1
        obtain ⟨better, hprefix, hbetter, hleft⟩ := hcrowded c hmem hc' hnot.2
        refine ⟨chunk :: better, List.cons_prefix_cons.mpr ⟨rfl, hprefix⟩,
          List.forall_mem_cons.mpr ⟨hahead c hmem, hbetter⟩, ?_⟩
        rw [List.length_cons, hsum]
        omega

/-- **What a search finds**, after any calls: chunks of documents that survive and are not too
sensitive, ranked, within the bounds, and all that have a score but for those that they crowd out. -/
theorem search_run (p : Platform) (calls : List Call) (bm25 : RagIndex → List String → Chunk → F)
    (query : String) (kinds : List DocumentKind) (ceiling : Sensitivity) (topK tokenBudget : Int) :
    let w := run p calls
    let score := bm25 w.index (tokens p query)
    let found := w.index.search p bm25 query topK kinds ceiling tokenBudget
    found.Pairwise (Ahead score) ∧ found.Nodup ∧
      (∀ c ∈ found, 0 < score c ∧ (kinds = [] ∨ c.kind ∈ kinds) ∧
        ∃ d ∈ w.surviving, c ∈ prepared p d ∧ d.sensitivity.level ≤ ceiling.level) ∧
      found.length ≤ topK.toNat ∧ tokensOf found ≤ tokenBudget.toNat ∧
      ∀ c ∈ w.index.candidates kinds ceiling, tokens p query ≠ [] → 0 < score c → c ∉ found →
        Crowded score topK tokenBudget found c := by
  intro w score found
  have hsorted := List.pairwise_insertionSort (Ahead score) (w.index.candidates kinds ceiling)
  have hperm := List.perm_insertionSort (Ahead score) (w.index.candidates kinds ceiling)
  have hdistinct : (w.index.candidates kinds ceiling).Nodup :=
    (List.Nodup.of_map _ w.index.chunks.nodup).filter _
  by_cases hnone : w.index.candidates kinds ceiling = [] ∨ tokens p query = []
  · rw [show found = [] from if_pos hnone]
    refine ⟨.nil, .nil, by simp, by simp, by simp [tokensOf], fun c hc hterms _ _ => ?_⟩
    rcases hnone with hnone | hnone
    · exact absurd (hnone ▸ hc) List.not_mem_nil
    · exact absurd hnone hterms
  · rw [show found = _ from if_neg hnone]
    obtain ⟨hsub, hpos, hlength, htokens, hcrowded⟩ :=
      @spend_spec F _ _ score topK tokenBudget _ 0 0 hsorted
    refine ⟨hsorted.sublist hsub, (hperm.nodup_iff.mpr hdistinct).sublist hsub, fun c hc => ?_,
      by simpa using hlength, by simpa using htokens, fun c hc _ hc' hnot => ?_⟩
    · obtain ⟨hrow, hmay⟩ := List.mem_filter.mp (hperm.mem_iff.mp (hsub.subset hc))
      obtain ⟨hlevel, hkind⟩ := of_decide_eq_true hmay
      obtain ⟨d, hd, howner⟩ := owned_run calls c hrow
      exact ⟨hpos c hc, hkind, d, hd, howner, (of_mem_prepared howner).2.2.1 ▸ hlevel⟩
    · simpa using hcrowded c (hperm.mem_iff.mpr hc) hc' hnot

end Searches

/-! ## One document -/

/-- On ASCII, with nothing personal anywhere, and what is digested for a digest. -/
def asciiPlatform : Platform where
  toTables := ascii
  containsPii _ := false
  foundPiiKinds _ := []
  redact text := text
  sha256 text := text

def feePolicy : SourceDocument where
  documentId := "fees"
  title := "Fees"
  source := "policies"
  kind := .policy
  content := "800"

/-- The first document does no harm. -/
theorem feePolicy_described : (versions [.ingest feePolicy]).Nodup ∧
    Describes asciiPlatform (run asciiPlatform [.ingest feePolicy]) := by
  refine ⟨by decide, (describes_iff asciiPlatform [.ingest feePolicy] (by decide)).mpr ?_ _
    (List.prefix_refl _)⟩
  intro before call after hcalls
  rcases List.append_eq_singleton_iff.mp hcalls.symm with ⟨rfl, hcall⟩ | ⟨-, hnil⟩
  · obtain ⟨rfl, -⟩ := List.cons.inj hcall
    intro _ c hc
    refine ⟨fun c' hc' => absurd hc' List.not_mem_nil, fun c' hc' hsame => ?_⟩
    rw [(of_mem_prepared hc').2.2.2.1, (of_mem_prepared hc).2.2.2.1] at hsame
    exact hsame
  · cases hnil

/-- What is dropped stays counted. -/
theorem stale_terms : ¬ ∀ calls : List Call, (versions calls).Nodup →
    Describes asciiPlatform (run asciiPlatform calls) := by
  intro hclaim
  have hcounted := (hclaim [.ingest feePolicy, .supersede "fees" 2] (by decide)).counted "800"
  have hrows : (run asciiPlatform [.ingest feePolicy, .supersede "fees" 2]).index.chunks.rows =
      [] := by decide
  rw [hrows] at hcounted
  exact absurd hcounted (by decide)

end NxTutors.Knowledge
