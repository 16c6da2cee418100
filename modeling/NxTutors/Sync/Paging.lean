import NxTutors.Store.Fairness
import NxTutors.Sync.Projection

/-!
# Paging through the feed

Both jobs that read the feed go forward page by page, up to a number of pages in a run. The
incremental sync starts where its last run stopped, and over a feed that does not change it comes to
every tutor, whatever fails in between, as long as some runs get a page at all. The fetcher starts
at the top in each run, so it comes as far as the pages of one run.
-/

namespace NxTutors.Sync

open Store

/-! ## Pages -/

/-- What a fetch returns. -/
structure SyncPage where
  tutors : List TutorCandidate
  hasMore : Bool

def SyncPage.fetched (page : SyncPage) : Nat := page.tutors.length

def MAX_PAGES_PER_RUN : Nat := 25

/-- What the fetches of a run return, by their number and the offset, and none where they raise. -/
abbrev Fetch := Nat → Nat → Option SyncPage

/-- The loop of `run_incremental_sync`: the pages that are upserted, and the next offset. -/
def incrementalLoop (fetch : Fetch) : Nat → Nat → Nat → List (List TutorCandidate) × Nat
  | 0, _, offset => ([], offset)
  | left + 1, pages, offset =>
    match fetch pages offset with
    | none => ([], offset)
    | some page =>
      if page.hasMore then
        let (rest, next) := incrementalLoop fetch left (pages + 1) (offset + page.fetched)
        (page.tutors :: rest, next)
      else ([page.tutors], 0)

/-- A run of the incremental sync, from the offset of its checkpoint. -/
def runIncrementalSync (fetch : Fetch) (offset : Nat) : List (List TutorCandidate) × Nat :=
  incrementalLoop fetch MAX_PAGES_PER_RUN 0 offset

/-- The loop of `stage_feed_pages`: the pages that are put, with their numbers. -/
def stageLoop (fetch : Fetch) : Nat → Nat → Nat → List (Nat × List TutorCandidate)
  | 0, _, _ => []
  | left + 1, number, offset =>
    match fetch number offset with
    | none => []
    | some page =>
      if page.tutors = [] then []
      else
        (number, page.tutors) ::
          if page.hasMore then stageLoop fetch left (number + 1) (offset + page.fetched) else []

/-- A run of the fetcher. -/
def stageFeedPages (fetch : Fetch) : List (Nat × List TutorCandidate) :=
  stageLoop fetch MAX_PAGES_PER_RUN 0 0

/-! ## A feed that does not change -/

/-- What the website publishes, and how it is asked. The flag of a page may be set on the last one,
but not be missing before. -/
structure StableFeed where
  tutors : List TutorCandidate
  pageSize : Nat
  more : Nat → Bool
  pageSize_pos : 0 < pageSize
  more_of_lt : ∀ offset, offset + pageSize < tutors.length → more offset = true

namespace StableFeed

variable (feed : StableFeed)

/-- The tutors of a page. -/
def slice (offset : Nat) : List TutorCandidate := (feed.tutors.drop offset).take feed.pageSize

/-- `fetch_page`, which does not trust the flag of an empty page. -/
def fetchPage (offset : Nat) : SyncPage :=
  ⟨feed.slice offset, feed.more offset && feed.slice offset ≠ []⟩

/-- The fetches of a run in which some fail. -/
def fetch (fails : Nat → Bool) : Fetch := fun number offset =>
  if fails number then none else some (feed.fetchPage offset)

variable {feed} {fails : Nat → Bool} {offset : Nat}

theorem length_slice : (feed.slice offset).length = min feed.pageSize (feed.tutors.length - offset) := by
  rw [slice, List.length_take, List.length_drop]

/-- Where there is nothing more, the page has all that is left. -/
theorem slice_of_not_hasMore (h : (feed.fetchPage offset).hasMore = false) :
    feed.slice offset = feed.tutors.drop offset := by
  refine List.take_of_length_le ?_
  rw [List.length_drop]
  by_contra hlong
  have hmore := feed.more_of_lt offset (by omega)
  have hne : feed.slice offset ≠ [] := by
    refine List.ne_nil_of_length_pos ?_
    rw [length_slice]
    have hpos := feed.pageSize_pos
    omega
  rw [fetchPage, hmore] at h
  simp [hne] at h

/-- Where there is more, the page is not empty. -/
theorem fetched_pos (h : (feed.fetchPage offset).hasMore = true) :
    0 < (feed.fetchPage offset).fetched ∧ offset < feed.tutors.length := by
  have hne : feed.slice offset ≠ [] := by
    rw [fetchPage] at h
    simp only [Bool.and_eq_true, decide_eq_true_eq] at h
    exact h.2
  have hpos : 0 < (feed.slice offset).length := List.length_pos_iff.mpr hne
  refine ⟨hpos, ?_⟩
  rw [length_slice] at hpos
  omega

/-! ## The incremental sync -/

/-- A run has come to the end, and the next starts at the top. -/
def Completes (feed : StableFeed) (offset : Nat) (run : List (List TutorCandidate) × Nat) : Prop :=
  run.2 = 0 ∧ ∀ t ∈ feed.tutors.drop offset, t ∈ run.1.flatten

/-- A run has come some way. -/
structure Advances (feed : StableFeed) (offset : Nat) (run : List (List TutorCandidate) × Nat) :
    Prop where
  le : offset ≤ run.2
  covers : ∀ t ∈ (feed.tutors.drop offset).take (run.2 - offset), t ∈ run.1.flatten

/-- By the pages: a run completes or advances, and it advances further than nothing if it gets a
page. -/
theorem incrementalLoop_spec : ∀ (left pages offset : Nat),
    Completes feed offset (incrementalLoop (feed.fetch fails) left pages offset) ∨
      (Advances feed offset (incrementalLoop (feed.fetch fails) left pages offset) ∧
        (0 < left → fails pages = false →
          offset < (incrementalLoop (feed.fetch fails) left pages offset).2 ∧
            offset < feed.tutors.length)) := by
  intro left
  induction left with
  | zero =>
    intro pages offset
    refine .inr ⟨⟨le_rfl, fun t ht => ?_⟩, fun h => absurd h (lt_irrefl 0)⟩
    rw [incrementalLoop, Nat.sub_self, List.take_zero] at ht
    cases ht
  | succ left ih =>
    intro pages offset
    cases hfails : fails pages with
    | true =>
      have hrun : incrementalLoop (feed.fetch fails) (left + 1) pages offset = ([], offset) := by
        simp [incrementalLoop, fetch, hfails]
      rw [hrun]
      refine .inr ⟨⟨le_rfl, fun t ht => ?_⟩, fun _ h => absurd h (by decide)⟩
      rw [Nat.sub_self, List.take_zero] at ht
      cases ht
    | false =>
      cases hmore : (feed.fetchPage offset).hasMore with
      | false =>
        have hrun : incrementalLoop (feed.fetch fails) (left + 1) pages offset
            = ([feed.slice offset], 0) := by
          simp [incrementalLoop, fetch, hfails, hmore]
          rfl
        rw [hrun]
        refine .inl ⟨rfl, fun t ht => ?_⟩
        rw [List.flatten_singleton, slice_of_not_hasMore hmore]
        exact ht
      | true =>
        obtain ⟨hpos, hlt⟩ := fetched_pos hmore
        have hrest := ih (pages + 1) (offset + (feed.fetchPage offset).fetched)
        have hrun : incrementalLoop (feed.fetch fails) (left + 1) pages offset
            = (feed.slice offset :: (incrementalLoop (feed.fetch fails) left (pages + 1)
                (offset + (feed.fetchPage offset).fetched)).1,
              (incrementalLoop (feed.fetch fails) left (pages + 1)
                (offset + (feed.fetchPage offset).fetched)).2) := by
          simp [incrementalLoop, fetch, hfails, hmore]
          rfl
        have hslice : feed.slice offset
            = (feed.tutors.drop offset).take (feed.fetchPage offset).fetched := by
          have hlength : (feed.fetchPage offset).fetched
              = min feed.pageSize (feed.tutors.length - offset) := length_slice
          refine List.take_eq_take_iff.mpr ?_
          rw [List.length_drop]
          omega
        rw [hrun]
        generalize (feed.fetchPage offset).fetched = size at *
        generalize incrementalLoop (feed.fetch fails) left (pages + 1) (offset + size) = rest at *
        rcases hrest with ⟨hzero, hcovers⟩ | ⟨⟨hle, hcovers⟩, -⟩
        · refine .inl ⟨hzero, fun t ht => ?_⟩
          rw [List.flatten_cons, List.mem_append, hslice]
          rw [← List.take_append_drop size (feed.tutors.drop offset), List.drop_drop,
            List.mem_append] at ht
          exact ht.imp_right (hcovers t)
        · refine .inr ⟨⟨by omega, fun t ht => ?_⟩, fun _ _ => ⟨by omega, hlt⟩⟩
          rw [List.flatten_cons, List.mem_append, hslice]
          have hsplit : rest.2 - offset = size + (rest.2 - (offset + size)) := by omega
          rw [hsplit, List.take_add, List.drop_drop, List.mem_append] at ht
          exact ht.imp_right (hcovers t)

/-! ### Run after run -/

section Runs

variable (feed) (fails : Nat → Nat → Bool) (start : Nat)

/-- The checkpoint before each run. -/
def checkpoint : Nat → Nat
  | 0 => start
  | n + 1 => (runIncrementalSync (feed.fetch (fails n)) (checkpoint n)).2

/-- The tutors that a run upserts. -/
def upserted (n : Nat) : List TutorCandidate :=
  (runIncrementalSync (feed.fetch (fails n)) (feed.checkpoint fails start n)).1.flatten

/-- A run comes to the end. -/
def RunCompletes (n : Nat) : Prop :=
  Completes feed (feed.checkpoint fails start n)
    (runIncrementalSync (feed.fetch (fails n)) (feed.checkpoint fails start n))

variable {feed fails start}

/-- A run that does not come to the end goes on from where it was. -/
theorem advances_of_not_completes {n : Nat} (h : ¬ feed.RunCompletes fails start n) :
    feed.checkpoint fails start n ≤ feed.checkpoint fails start (n + 1) ∧
      (∀ t ∈ (feed.tutors.drop (feed.checkpoint fails start n)).take
        (feed.checkpoint fails start (n + 1) - feed.checkpoint fails start n),
          t ∈ feed.upserted fails start n) ∧
      (fails n 0 = false → feed.checkpoint fails start n < feed.checkpoint fails start (n + 1) ∧
        feed.checkpoint fails start n < feed.tutors.length) := by
  rcases @incrementalLoop_spec feed (fails n) MAX_PAGES_PER_RUN 0 (feed.checkpoint fails start n) with
    hdone | ⟨⟨hle, hcovers⟩, hgets⟩
  · exact absurd hdone h
  · exact ⟨hle, hcovers, hgets (by decide)⟩

/-- Again and again a run comes to the end. -/
theorem exists_completes (h : Recurs fun n => fails n 0 = false) :
    ∀ n, ∃ m, n ≤ m ∧ feed.RunCompletes fails start m := by
  refine @Recurs.reaches _ _ (fun n => feed.tutors.length - feed.checkpoint fails start n) h ?_ ?_
  · intro n hnot
    have hle := (advances_of_not_completes hnot).1
    omega
  · intro n hgets hnot
    obtain ⟨hlt, hbound⟩ := (advances_of_not_completes hnot).2.2 hgets
    omega

/-- **The incremental sync comes to every tutor**, from wherever its checkpoint is, if again and
again a run gets its first page. -/
theorem incremental_refreshes (h : Recurs fun n => fails n 0 = false) :
    ∃ n, ∀ t ∈ feed.tutors, ∃ m < n, t ∈ feed.upserted fails start m := by
  obtain ⟨first, -, hfirst⟩ := @exists_completes feed fails start h 0
  have hzero : feed.checkpoint fails start (first + 1) = 0 := hfirst.1
  -- the next pass ends with the first run after that one which comes to the end
  have hagain := @exists_completes feed fails start h (first + 1)
  classical
  set last := Nat.find hagain with hlast
  obtain ⟨hle, hdone⟩ := Nat.find_spec hagain
  rw [← hlast] at hle hdone
  have hpass : ∀ d, first + 1 + d ≤ last →
      ∀ t ∈ feed.tutors.take (feed.checkpoint fails start (first + 1 + d)),
        ∃ m < first + 1 + d, t ∈ feed.upserted fails start m := by
    intro d
    induction d with
    | zero =>
      intro _ t ht
      rw [Nat.add_zero, hzero, List.take_zero] at ht
      cases ht
    | succ d ih =>
      intro hbefore t ht
      have hnot : ¬ feed.RunCompletes fails start (first + 1 + d) := fun hdone' =>
        Nat.find_min hagain (by omega : first + 1 + d < last) ⟨by omega, hdone'⟩
      obtain ⟨hadvance, hcovers, -⟩ := advances_of_not_completes hnot
      rw [← Nat.add_assoc, ← Nat.add_sub_cancel' hadvance, List.take_add, List.mem_append] at ht
      rcases ht with ht | ht
      · obtain ⟨m, hm, hmem⟩ := ih (by omega) t ht
        exact ⟨m, by omega, hmem⟩
      · exact ⟨first + 1 + d, by omega, hcovers t ht⟩
  refine ⟨last + 1, fun t ht => ?_⟩
  rw [← List.take_append_drop (feed.checkpoint fails start last) feed.tutors, List.mem_append] at ht
  rcases ht with ht | ht
  · have hsame : first + 1 + (last - (first + 1)) = last := by omega
    obtain ⟨m, hm, hmem⟩ := hpass (last - (first + 1)) (by omega) t (by rw [hsame]; exact ht)
    exact ⟨m, by omega, hmem⟩
  · exact ⟨last, by omega, hdone.2 t ht⟩

end Runs

/-! ## The fetcher -/

/-- By the pages: a page is put if no fetch up to it fails, and it is in the feed. -/
theorem mem_stageLoop_iff {fails : Nat → Bool} {j : Nat} {page : List TutorCandidate} :
    ∀ (left number offset : Nat), offset = min (number * feed.pageSize) feed.tutors.length →
      ((j, page) ∈ stageLoop (feed.fetch fails) left number offset ↔
        number ≤ j ∧ j < number + left ∧ (∀ k, number ≤ k → k ≤ j → fails k = false) ∧
          j * feed.pageSize < feed.tutors.length ∧ page = feed.slice (j * feed.pageSize)) := by
  intro left
  induction left with
  | zero =>
    intro number offset _
    rw [stageLoop]
    exact iff_of_false List.not_mem_nil fun h => absurd h.2.1 (by omega)
  | succ left ih =>
    intro number offset hoffset
    cases hfails : fails number with
    | true =>
      have hrun : stageLoop (feed.fetch fails) (left + 1) number offset = [] := by
        simp [stageLoop, fetch, hfails]
      rw [hrun]
      refine iff_of_false List.not_mem_nil fun ⟨hle, _, hall, _⟩ => ?_
      rw [hall number le_rfl hle] at hfails
      cases hfails
    | false =>
      have hlength := @length_slice feed offset
      have hpos := feed.pageSize_pos
      have hlater (hj : number + 1 ≤ j) : number * feed.pageSize + feed.pageSize ≤ j * feed.pageSize := by
        rw [← Nat.succ_mul]
        exact Nat.mul_le_mul_right _ hj
      by_cases hnil : feed.slice offset = []
      · have hrun : stageLoop (feed.fetch fails) (left + 1) number offset = [] := by
          simp [stageLoop, fetch, hfails, fetchPage, hnil]
        rw [hrun]
        refine iff_of_false List.not_mem_nil fun ⟨hle, _, _, hlt, _⟩ => ?_
        rw [hnil, List.length_nil] at hlength
        have hmul : number * feed.pageSize ≤ j * feed.pageSize := Nat.mul_le_mul_right _ hle
        omega
      · have hin : offset = number * feed.pageSize ∧ offset < feed.tutors.length := by
          have hne := List.length_pos_iff.mpr hnil
          omega
        have hself : number = j ∧ feed.slice offset = page ↔
            number = j ∧ (∀ k, number ≤ k → k ≤ j → fails k = false) ∧
              j * feed.pageSize < feed.tutors.length ∧ page = feed.slice (j * feed.pageSize) := by
          refine and_congr_right fun heq => ?_
          subst heq
          rw [← hin.1]
          refine ⟨fun h => ⟨fun k h1 h2 => ?_, hin.2, h.symm⟩, fun h => h.2.2.symm⟩
          rw [le_antisymm h2 h1]
          exact hfails
        cases hmore : (feed.fetchPage offset).hasMore with
        | false =>
          have hrun : stageLoop (feed.fetch fails) (left + 1) number offset
              = [(number, feed.slice offset)] := by
            simp [stageLoop, fetch, hfails, hmore]
            exact if_neg hnil
          rw [hrun, List.mem_singleton, Prod.mk.injEq, eq_comm, @eq_comm _ page, hself]
          have hrest := congrArg List.length (slice_of_not_hasMore hmore)
          rw [List.length_drop] at hrest
          constructor
          · rintro ⟨rfl, hall, hlt, hpage⟩
            exact ⟨le_rfl, by omega, hall, hlt, hpage⟩
          · rintro ⟨hle, -, hall, hlt, hpage⟩
            rcases hle.eq_or_lt with heq | hgt
            · exact ⟨heq, hall, hlt, hpage⟩
            · have := hlater hgt
              omega
        | true =>
          have hfetched : offset + (feed.fetchPage offset).fetched
              = min ((number + 1) * feed.pageSize) feed.tutors.length := by
            have hsize : (feed.fetchPage offset).fetched
                = min feed.pageSize (feed.tutors.length - offset) := hlength
            rw [Nat.succ_mul]
            omega
          have hrun : stageLoop (feed.fetch fails) (left + 1) number offset
              = (number, feed.slice offset) :: stageLoop (feed.fetch fails) left (number + 1)
                  (offset + (feed.fetchPage offset).fetched) := by
            simp [stageLoop, fetch, hfails, hmore]
            exact if_neg hnil
          rw [hrun, List.mem_cons, Prod.mk.injEq, @eq_comm _ j, @eq_comm _ page, hself,
            ih _ _ hfetched]
          constructor
          · rintro (⟨rfl, hall, hlt, hpage⟩ | ⟨hle, hbound, hall, hlt, hpage⟩)
            · exact ⟨le_rfl, by omega, hall, hlt, hpage⟩
            · refine ⟨by omega, by omega, fun k h1 h2 => ?_, hlt, hpage⟩
              rcases h1.eq_or_lt with rfl | h1
              · exact hfails
              · exact hall k h1 h2
          · rintro ⟨hle, hbound, hall, hlt, hpage⟩
            rcases hle.eq_or_lt with heq | hgt
            · exact .inl ⟨heq, hall, hlt, hpage⟩
            · exact .inr ⟨hgt, by omega, fun k h1 h2 => hall k (by omega) h2, hlt, hpage⟩

/-- **What a run of the fetcher puts**: of the first pages, those before the first that fails. -/
theorem mem_stageFeedPages_iff {fails : Nat → Bool} {j : Nat} {page : List TutorCandidate} :
    (j, page) ∈ stageFeedPages (feed.fetch fails) ↔ j < MAX_PAGES_PER_RUN ∧
      (∀ k ≤ j, fails k = false) ∧ j * feed.pageSize < feed.tutors.length ∧
        page = feed.slice (j * feed.pageSize) := by
  rw [stageFeedPages, mem_stageLoop_iff _ _ _ (by omega)]
  simp

end StableFeed

end NxTutors.Sync
