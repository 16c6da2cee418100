import Mathlib.Data.List.Sort
import Mathlib.Data.Prod.Lex
import Mathlib.Data.String.Basic
import NxTutors.Store.Table
import NxTutors.Text.Regex
import NxTutors.Text.Joined

/-!
# The knowledge index

Documents are cut into chunks at their paragraphs, with some overlap, and what is personal in a
chunk is replaced. A chunk whose content is stored already is not stored again, whichever document
it came with. Of the stored chunks three more tables are kept: which chunk has a checksum, how long
each chunk is, and how many of them contain a term. Documents are superseded by taking the chunks of
their other versions out. A search takes the chunks it may find by their scores, while they fit.
-/

namespace NxTutors.Knowledge

open Text Store

inductive Sensitivity
  | «public»
  | internal
  | restricted
  deriving DecidableEq, Repr

/-- Where it stands on the ladder. -/
def Sensitivity.level : Sensitivity → Nat
  | .«public» => 0
  | .internal => 1
  | .restricted => 2

inductive DocumentKind
  | policy
  | curriculum
  | faq
  | serviceArea
  | pricingGuidance
  | playbook
  | tutorNarrative
  deriving DecidableEq, Repr

/-- A document. From when it is in effect is read by nothing here. -/
structure SourceDocument where
  documentId : String
  title : String
  source : String
  kind : DocumentKind
  content : String
  sensitivity : Sensitivity := .«public»
  accessScope : List String := []
  documentVersion : Int := 1
  deriving DecidableEq, Repr

structure Chunk where
  chunkId : String
  documentId : String
  documentVersion : Int
  chunkNumber : Nat
  content : String
  checksum : String
  tokenCount : Nat
  kind : DocumentKind
  sensitivity : Sensitivity
  accessScope : List String
  title : String
  source : String
  deriving DecidableEq, Repr

structure IngestionReport where
  accepted : Nat := 0
  rejected : Nat := 0
  deduplicated : Nat := 0
  redacted : Nat := 0
  reasons : List String := []
  deriving DecidableEq, Repr

/-- What the index is built with: it asks what is personal, and for a digest. -/
structure Platform extends Tables where
  containsPii : String → Bool
  foundPiiKinds : String → List String
  /-- with pincodes left as they are -/
  redact : String → String
  /-- `hashlib.sha256`, of UTF-8, in hexadecimal digits -/
  sha256 : String → String

variable (p : Platform)

/-- `_tokens`. -/
def tokens (text : String) : List String :=
  (runs (fun c => ('a' ≤ c ∧ c ≤ 'z') ∨ ('0' ≤ c ∧ c ≤ '9')) (p.lower text)).map String.ofList

def CHARS_PER_TOKEN : Nat := 4

def estimateTokens (text : String) : Nat := max 1 (text.length / CHARS_PER_TOKEN)

def checksumOf (text : String) : String := p.sha256 text

/-! ## Chunks -/

/-- `re.split`, of a pattern that matches nothing empty. -/
def resplit (t : Tables) (a : Re) (text : String) : List String :=
  go (text.toList.length + 1) none [] text.toList
where
  /-- The characters of the piece so far, the last one first. -/
  go : Nat → Option Char → List Char → List Char → List String
    | 0, _, piece, _ => [String.ofList piece.reverse]
    | n + 1, before, piece, rest =>
      match a.run t some ⟨before, rest, fun _ => none⟩ with
      | some end' => String.ofList piece.reverse :: go n end'.before [] end'.rest
      | none =>
        match rest with
        | [] => [String.ofList piece.reverse]
        | c :: cs => go n (some c) (c :: piece) cs

/-- `\n\s*\n`. -/
def BLANK_LINE : Re := .seqs [.word "\n", .many p.isSpace, .word "\n"]

/-- The paragraphs of a text that are not blank. -/
def paragraphs (content : String) : List String :=
  ((resplit p.toTables (BLANK_LINE p) content).map (strip p.toTables)).filter (· ≠ "")

/-- What is being put together. -/
structure Buffering where
  chunks : List Chunk := []
  buffer : List String := []
  bufferTokens : Nat := 0

/-- The chunk of a document with a number. -/
def chunkOf (document : SourceDocument) (number : Nat) (content : String) : Chunk where
  chunkId := document.documentId ++ ":v" ++ toString document.documentVersion ++ ":" ++
    toString number
  documentId := document.documentId
  documentVersion := document.documentVersion
  chunkNumber := number
  content := content
  checksum := checksumOf p content
  tokenCount := estimateTokens content
  kind := document.kind
  sensitivity := document.sensitivity
  accessScope := document.accessScope
  title := document.title
  source := document.source

/-- The paragraphs that are carried over, out of those before, the last one first. -/
def tailFrom (overlapTokens : Nat) : Nat → List String → List String × Nat
  | tailTokens, [] => ([], tailTokens)
  | tailTokens, paragraph :: more =>
    let size := estimateTokens paragraph
    if overlapTokens < tailTokens + size then ([], tailTokens)
    else
      let (tail, total) := tailFrom overlapTokens (tailTokens + size) more
      (tail ++ [paragraph], total)

variable (document : SourceDocument) (targetTokens overlapTokens : Nat)

/-- `flush`. -/
def flushBuffer (s : Buffering) : Buffering :=
  if s.buffer = [] then s
  else
    let content := strip p.toTables ("\n\n".intercalate s.buffer)
    let (tail, tailTokens) := tailFrom overlapTokens 0 s.buffer.reverse
    { chunks := s.chunks ++ [chunkOf p document s.chunks.length content]
      buffer := tail
      bufferTokens := tailTokens }

/-- One more paragraph. -/
def addParagraph (s : Buffering) (paragraph : String) : Buffering :=
  let size := estimateTokens paragraph
  let s := if s.buffer ≠ [] ∧ targetTokens < s.bufferTokens + size then
      flushBuffer p document overlapTokens s
    else s
  { s with buffer := s.buffer ++ [paragraph], bufferTokens := s.bufferTokens + size }

/-- `chunk_document`. -/
def chunkDocument : List Chunk :=
  if paragraphs p document.content = [] then []
  else
    (flushBuffer p document overlapTokens
      ((paragraphs p document.content).foldl (addParagraph p document targetTokens overlapTokens)
        {})).chunks

/-! ## The index -/

/-- What is stored. -/
structure RagIndex where
  chunks : Table Chunk.chunkId
  /-- which chunk has a checksum -/
  byChecksum : Table (Prod.fst : String × String → String)
  /-- a counter: a term that it does not have is counted as zero -/
  docFreq : String → Nat
  lengths : Table (Prod.fst : String × Nat → String)

/-- `RagIndex()`. -/
def RagIndex.empty : RagIndex := ⟨.empty, .empty, fun _ => 0, .empty⟩

/-- `_validate`. None is raising nothing. -/
def validate : Option String :=
  if document.documentId = "" ∨ document.title = "" then some "document_id and title are required"
  else if strip p.toTables document.content = "" then
    some (document.documentId ++ ": empty content")
  else if 2000000 < document.content.length then
    some (document.documentId ++ ": document too large")
  else none

/-- A chunk with what is personal replaced. -/
def redactChunk (chunk : Chunk) : Chunk :=
  if p.containsPii chunk.content then
    { chunk with content := p.redact chunk.content,
                 checksum := checksumOf p (p.redact chunk.content) }
  else chunk

/-- A chunk is stored. -/
def RagIndex.store (index : RagIndex) (chunk : Chunk) : RagIndex where
  chunks := index.chunks.put chunk
  byChecksum := index.byChecksum.put (chunk.checksum, chunk.chunkId)
  docFreq term := index.docFreq term + if term ∈ tokens p chunk.content then 1 else 0
  lengths := index.lengths.put (chunk.chunkId, (tokens p chunk.content).length)

/-- One chunk of a document, and what is reported of it. -/
def ingestChunk (s : RagIndex × IngestionReport) (original : Chunk) : RagIndex × IngestionReport :=
  let (index, report) := s
  let chunk := redactChunk p original
  let report := if p.containsPii original.content then
      { report with
        redacted := report.redacted + 1
        reasons := report.reasons ++ ["pii_redacted:" ++ original.chunkId ++ ":" ++
          ",".intercalate (p.foundPiiKinds original.content)] }
    else report
  if (index.byChecksum.find chunk.checksum).isSome then
    (index, { report with deduplicated := report.deduplicated + 1 })
  else (index.store p chunk, { report with accepted := report.accepted + 1 })

/-- `ingest`. -/
def RagIndex.ingest (index : RagIndex) : RagIndex × IngestionReport :=
  match validate p document with
  | some reason => (index, { rejected := 1, reasons := [reason] })
  | none => (chunkDocument p document 220 40).foldl (ingestChunk p) (index, {})

/-- A chunk is dropped. -/
def RagIndex.drop (index : RagIndex) (chunkId : String) : RagIndex :=
  match index.chunks.find chunkId with
  | none => index
  | some chunk => { index with
      chunks := index.chunks.erase chunkId
      byChecksum := index.byChecksum.erase chunk.checksum
      lengths := index.lengths.erase chunkId }

/-- `supersede`, and how many chunks went. -/
def RagIndex.supersede (index : RagIndex) (documentId : String) (keepVersion : Int) :
    RagIndex × Nat :=
  let doomed := (index.chunks.rows.filter fun chunk =>
    chunk.documentId = documentId ∧ chunk.documentVersion ≠ keepVersion).map Chunk.chunkId
  (doomed.foldl RagIndex.drop index, doomed.length)

/-! ## Search -/

section Search

variable {F : Type} [LinearOrder F] [Zero F]

/-- `(-score, chunk_id)`. -/
def searchKey (score : Chunk → F) (c : Chunk) : Fᵒᵈ ×ₗ String :=
  toLex (.toDual (score c), c.chunkId)

/-- The order of what is found. -/
def Ahead (score : Chunk → F) (a b : Chunk) : Prop := searchKey score a ≤ searchKey score b

variable {score : Chunk → F}

instance : DecidableRel (Ahead score) := fun _ _ => inferInstanceAs (Decidable (_ ≤ _))

instance : Std.Total (Ahead score) := ⟨fun _ _ => le_total _ _⟩

instance : IsTrans Chunk (Ahead score) := ⟨fun _ _ _ h h' => le_trans (α := _ ×ₗ _) h h'⟩

/-- The loop over the ranked chunks, when so many are selected that have so many tokens. -/
def spend (score : Chunk → F) (topK tokenBudget : Int) : Nat → Nat → List Chunk → List Chunk
  | _, _, [] => []
  | selected, spent, chunk :: more =>
    if score chunk ≤ 0 ∨ topK ≤ selected then []
    else if tokenBudget < spent + chunk.tokenCount then
      spend score topK tokenBudget selected spent more
    else chunk :: spend score topK tokenBudget (selected + 1) (spent + chunk.tokenCount) more

/-- The chunks that a search may find. -/
def RagIndex.candidates (index : RagIndex) (kinds : List DocumentKind)
    (maxSensitivity : Sensitivity) : List Chunk :=
  index.chunks.rows.filter fun chunk =>
    chunk.sensitivity.level ≤ maxSensitivity.level ∧ (kinds = [] ∨ chunk.kind ∈ kinds)

/-- `search`. `_bm25` is a parameter: it computes the score of a chunk in floating point. -/
def RagIndex.search (index : RagIndex) (bm25 : RagIndex → List String → Chunk → F) (query : String)
    (topK : Int) (kinds : List DocumentKind) (maxSensitivity : Sensitivity) (tokenBudget : Int) :
    List Chunk :=
  let candidates := index.candidates kinds maxSensitivity
  let terms := tokens p query
  if candidates = [] ∨ terms = [] then []
  else spend (bm25 index terms) topK tokenBudget 0 0
    (candidates.insertionSort (Ahead (bm25 index terms)))

end Search

end NxTutors.Knowledge
