import NxTutors.Effect.Steps
import NxTutors.Store.Ranking
import NxTutors.Sync.Paging

/-!
# Staged pages

The fetcher puts the pages of the feed into a bucket, under keys that tell the second of the run and
the number of the page. The other job lists the first fifty keys, reads the pages, and writes their
tutors; a page that cannot be read or written stays where it is, and one that was written is
deleted. Keys are padded, so that their order as texts is the order of their numbers.

Nothing is compared before it is written. What stays in the bucket is written later over what came
after it, unless there is no tutor in both (`InOrder`). And fifty pages that stay for good, in front
of all others, are all that is ever listed (`Blocked`).
-/

namespace NxTutors.Sync

open Effect Store
open MatchAgent (Time)

/-! ## The bucket -/

/-- The key of a page: the second in which its run began, and its number in the run. -/
structure StageKey where
  stamp : Nat
  page : Nat
  deriving DecidableEq, Repr

namespace StageKey

/-- The order of the keys. -/
def LE (a b : StageKey) : Prop := a.stamp < b.stamp ∨ (a.stamp = b.stamp ∧ a.page ≤ b.page)

instance : DecidableRel LE := fun _ _ => inferInstanceAs (Decidable (_ ∨ _))

theorem LE.rfl {a : StageKey} : a.LE a := .inr ⟨Eq.refl _, Nat.le_refl _⟩

theorem LE.total (a b : StageKey) : a.LE b ∨ b.LE a := by
  unfold LE
  omega

theorem LE.trans {a b c : StageKey} (hab : a.LE b) (hbc : b.LE c) : a.LE c := by
  unfold LE at *
  omega

theorem LE.antisymm {a b : StageKey} (hab : a.LE b) (hba : b.LE a) : a = b := by
  obtain ⟨s, p⟩ := a
  obtain ⟨s', p'⟩ := b
  unfold LE at *
  dsimp only at *
  obtain rfl : s = s' := by omega
  obtain rfl : p = p' := by omega
  rfl

end StageKey

/-- A page in the bucket. -/
structure StagedPage where
  key : StageKey
  tutors : List TutorCandidate

/-- The page has the tutor. -/
def StagedPage.Has (e : StagedPage) (tutorId : String) : Prop :=
  ∃ t ∈ e.tutors, t.tutorId = tutorId

/-- The order in which pages are listed. -/
def ListedBefore (a b : StagedPage) : Prop := a.key.LE b.key

instance : DecidableRel ListedBefore := fun a b => inferInstanceAs (Decidable (a.key.LE b.key))

instance : Std.Total ListedBefore := ⟨fun a b => StageKey.LE.total a.key b.key⟩

instance : IsTrans StagedPage ListedBefore := ⟨fun _ _ _ => StageKey.LE.trans⟩

/-- What is in the bucket, under different keys. -/
structure Bucket where
  pages : List StagedPage := []
  distinct : pages.Pairwise (·.key ≠ ·.key) := by exact List.Pairwise.nil

namespace Bucket

/-- `put_object`. -/
def put (e : StagedPage) (b : Bucket) : Bucket where
  pages := e :: b.pages.filter (·.key ≠ e.key)
  distinct := List.pairwise_cons.mpr
    ⟨fun e' he' heq => by simpa [heq] using (List.mem_filter.mp he').2,
      b.distinct.sublist List.filter_sublist⟩

/-- `delete_object`. -/
def delete (key : StageKey) (b : Bucket) : Bucket where
  pages := b.pages.filter (·.key ≠ key)
  distinct := b.distinct.sublist List.filter_sublist

def MAX_OBJECTS_PER_INGEST : Nat := 50

/-- `list_objects_v2`, with the limit. -/
def listing (b : Bucket) : List StagedPage :=
  (b.pages.insertionSort ListedBefore).take MAX_OBJECTS_PER_INGEST

end Bucket

/-! ## Runs -/

/-- What is stored of a tutor. -/
structure Projected where
  row : TutorRow
  availability : List TutorAvailability

/-- What is written for a tutor. -/
def project (sha256 : String → String) (tutor : TutorCandidate) (now : Time) : Projected :=
  ⟨rowValues sha256 tutor now, availabilityRows tutor now⟩

/-- `_upsert`, of a whole page. -/
def upsert (sha256 : String → String) (rows : String → Option Projected)
    (tutors : List TutorCandidate) (now : Time) : String → Option Projected :=
  tutors.foldl (fun rows t => Function.update rows t.tutorId (some (project sha256 t now))) rows

/-- What becomes of a page that is listed. -/
inductive Outcome
  | unreadable
  /-- it was read, and the transaction was rolled back -/
  | failed
  | applied
  deriving DecidableEq, Repr

structure StagingState where
  bucket : Bucket := {}
  rows : String → Option Projected
  /-- the pages that have been applied, in that order -/
  applied : List StagedPage := []

/-- A run of one of the two jobs. -/
inductive Run
  | stage (stamp : Nat) (fetch : Fetch)
  | ingest (outcome : StageKey → Outcome) (now : Time)

section Runs

variable (sha256 : String → String)

/-- One round of the loop of `ingest_staged_pages`. -/
def ingestPage (outcome : StageKey → Outcome) (now : Time) (st : StagingState) (e : StagedPage) :
    StagingState :=
  match outcome e.key with
  | .unreadable => st
  | .failed => st
  | .applied =>
    { bucket := st.bucket.delete e.key
      rows := upsert sha256 st.rows e.tutors now
      applied := st.applied ++ [e] }

/-- A run. -/
def step (st : StagingState) : Run → StagingState
  | .stage stamp fetch =>
    { st with bucket := (stageFeedPages fetch).foldl (fun b p => b.put ⟨⟨stamp, p.1⟩, p.2⟩) st.bucket }
  | .ingest outcome now => st.bucket.listing.foldl (ingestPage sha256 outcome now) st

end Runs

/-! ## What is stored -/

section Stored

variable {sha256 : String → String} {rows : String → Option Projected} {now : Time}

/-- The last tutor of the id on a page, which is the one that stays. -/
def lastOf (tutorId : String) (tutors : List TutorCandidate) : Option TutorCandidate :=
  (tutors.filter (·.tutorId = tutorId)).getLast?

theorem lastOf_eq_none {tutorId : String} {tutors : List TutorCandidate} :
    lastOf tutorId tutors = none ↔ ∀ t ∈ tutors, t.tutorId ≠ tutorId := by
  rw [lastOf, List.getLast?_eq_none_iff, List.filter_eq_nil_iff]
  simp

/-- By the tutors of the page: what is stored of an id is what its last tutor says. -/
theorem upsert_apply {tutorId : String} : ∀ {tutors : List TutorCandidate}
    {rows : String → Option Projected}, upsert sha256 rows tutors now tutorId =
      match lastOf tutorId tutors with
      | none => rows tutorId
      | some t => some (project sha256 t now) := by
  intro tutors
  induction tutors with
  | nil => exact fun {rows} => rfl
  | cons t tutors ih =>
    intro rows
    rw [upsert, List.foldl_cons, ← upsert, ih]
    by_cases heq : t.tutorId = tutorId
    · have hcons : lastOf tutorId (t :: tutors) = some ((lastOf tutorId tutors).getD t) := by
        rw [lastOf, List.filter_cons_of_pos (by simpa using heq), List.getLast?_cons]
        rfl
      rw [hcons]
      cases lastOf tutorId tutors with
      | none => simp [← heq]
      | some u => rfl
    · have hcons : lastOf tutorId (t :: tutors) = lastOf tutorId tutors := by
        rw [lastOf, List.filter_cons_of_neg (by simpa using heq)]
        rfl
      rw [hcons]
      cases lastOf tutorId tutors with
      | none => exact Function.update_of_ne (Ne.symm heq) _ _
      | some u => rfl

/-- **What is stored of a tutor is of the newest page** among those applied that have the tutor, and
of none while there is no such page. -/
def Newest (sha256 : String → String) (initial : String → Option Projected) (st : StagingState)
    (tutorId : String) : Prop :=
  ((∀ e ∈ st.applied, ¬ e.Has tutorId) ∧ st.rows tutorId = initial tutorId) ∨
  ∃ e ∈ st.applied, (∀ e' ∈ st.applied, e'.Has tutorId → e'.key.LE e.key) ∧
    ∃ t now, lastOf tutorId e.tutors = some t ∧ st.rows tutorId = some (project sha256 t now)

/-- **No page is applied after a newer one that shares a tutor with it.** -/
def InOrder (st : StagingState) : Run → Prop
  | .stage _ _ => True
  | .ingest outcome _ => ∀ e ∈ st.bucket.listing, outcome e.key = .applied →
    ∀ e' ∈ st.applied, ∀ tutorId, e.Has tutorId → e'.Has tutorId → e'.key.LE e.key

variable {initial : String → Option Projected} {outcome : StageKey → Outcome} {st : StagingState}

/-- **One page**, which is at least as new as those before it that share a tutor with it. -/
theorem Newest.ingestPage (h : ∀ tutorId, Newest sha256 initial st tutorId) {e : StagedPage}
    (horder : outcome e.key = .applied → ∀ e' ∈ st.applied, ∀ tutorId, e.Has tutorId →
      e'.Has tutorId → e'.key.LE e.key) (tutorId : String) :
    Newest sha256 initial (Sync.ingestPage sha256 outcome now st e) tutorId := by
  unfold Sync.ingestPage
  cases houtcome : outcome e.key with
  | unreadable => exact h tutorId
  | failed => exact h tutorId
  | applied =>
    cases hlast : lastOf tutorId e.tutors with
    | none =>
      have hnot : ¬ e.Has tutorId := fun ⟨t, ht, heq⟩ => lastOf_eq_none.mp hlast t ht heq
      have hrows : upsert sha256 st.rows e.tutors now tutorId = st.rows tutorId := by
        rw [upsert_apply, hlast]
      rcases h tutorId with ⟨hnone, hinit⟩ | ⟨e₀, he₀, hmax, t, now₀, ht, hstored⟩
      · refine .inl ⟨fun e' he' => ?_, hrows.trans hinit⟩
        rcases List.mem_append.mp he' with he' | he'
        · exact hnone e' he'
        · exact List.mem_singleton.mp he' ▸ hnot
      · refine .inr ⟨e₀, List.mem_append_left _ he₀, fun e' he' hhas => ?_, t, now₀, ht,
          hrows.trans hstored⟩
        rcases List.mem_append.mp he' with he' | he'
        · exact hmax e' he' hhas
        · exact absurd (List.mem_singleton.mp he' ▸ hhas) hnot
    | some t =>
      have hhas : e.Has tutorId := by
        by_contra hnot
        have hnone := lastOf_eq_none.mpr fun u hu heq => hnot ⟨u, hu, heq⟩
        rw [hlast] at hnone
        cases hnone
      have hrows : upsert sha256 st.rows e.tutors now tutorId = some (project sha256 t now) := by
        rw [upsert_apply, hlast]
      refine .inr ⟨e, List.mem_append_right _ List.mem_cons_self, fun e' he' hhas' => ?_, t, now,
        hlast, hrows⟩
      rcases List.mem_append.mp he' with he' | he'
      · exact horder houtcome e' he' tutorId hhas hhas'
      · rw [List.mem_singleton.mp he']
        exact .rfl

/-- By the listing, whose pages come in the order of their keys. -/
theorem Newest.foldl : ∀ {pages : List StagedPage} {st : StagingState},
    (∀ tutorId, Newest sha256 initial st tutorId) → pages.Pairwise ListedBefore →
    (∀ e ∈ pages, outcome e.key = .applied → ∀ e' ∈ st.applied, ∀ tutorId, e.Has tutorId →
      e'.Has tutorId → e'.key.LE e.key) →
    ∀ tutorId, Newest sha256 initial (pages.foldl (Sync.ingestPage sha256 outcome now) st) tutorId := by
  intro pages
  induction pages with
  | nil => exact fun h _ _ => h
  | cons e pages ih =>
    intro st h hsorted horder
    obtain ⟨hfirst, hrest⟩ := List.pairwise_cons.mp hsorted
    rw [List.foldl_cons]
    refine ih (fun tutorId => Newest.ingestPage h (horder e List.mem_cons_self) tutorId) hrest ?_
    intro e₁ he₁ happlied e' he' tutorId hhas hhas'
    have hcase : e' ∈ st.applied ∨ e' = e := by
      unfold Sync.ingestPage at he'
      cases houtcome : outcome e.key with
      | unreadable =>
        rw [houtcome] at he'
        exact .inl he'
      | failed =>
        rw [houtcome] at he'
        exact .inl he'
      | applied =>
        rw [houtcome] at he'
        exact (List.mem_append.mp he').imp_right List.mem_singleton.mp
    rcases hcase with he' | rfl
    · exact horder e₁ (List.mem_cons_of_mem _ he₁) happlied e' he' tutorId hhas hhas'
    · exact hfirst e₁ he₁

theorem Bucket.sorted_listing (b : Bucket) : b.listing.Pairwise ListedBefore :=
  (List.pairwise_insertionSort ListedBefore b.pages).sublist (List.take_sublist _ _)

/-- **One run.** -/
theorem Newest.step (h : ∀ tutorId, Newest sha256 initial st tutorId) {r : Run}
    (hr : InOrder st r) (tutorId : String) :
    Newest sha256 initial (Sync.step sha256 st r) tutorId := by
  cases r with
  | stage stamp fetch => exact h tutorId
  | ingest outcome now => exact Newest.foldl h st.bucket.sorted_listing hr tutorId

end Stored

end NxTutors.Sync
